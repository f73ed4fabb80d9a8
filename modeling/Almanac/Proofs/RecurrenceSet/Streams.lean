import Almanac.Proofs.RecurrenceSet.Exclusion

/-! A recurrence set as streams that are merged: what each rule has still to deliver, and the dates.
Whether the streams are in order or not, a run takes the head of one of them at a time, and no head
of another is earlier: `next_takesLeast`. -/

namespace Almanac

open Supply (toList)

def NoneEarlier (n : Int) (streams : List (List Int)) : Prop :=
  ∀ ns ∈ streams, ∀ k, ns.head? = some k → n ≤ k

/-- One stream loses its head, and no stream begins before it. -/
structure TakesLeast (n : Int) (streams after : List (List Int)) : Prop where
  taken : ∃ left rest right, streams = left ++ (n :: rest) :: right ∧ after = left ++ rest :: right
  least : NoneEarlier n streams

namespace TakesLeast

variable {n : Int} {streams after : List (List Int)}

theorem flatten_perm (h : TakesLeast n streams after) :
    streams.flatten.Perm (n :: after.flatten) := by
  obtain ⟨left, rest, right, rfl, rfl⟩ := h.taken
  rw [List.flatten_append, List.flatten_append, List.flatten_cons, List.flatten_cons,
    List.cons_append]
  exact List.perm_middle

theorem exists_suffix (h : TakesLeast n streams after) :
    ∀ ns ∈ after, ∃ ms ∈ streams, ns <:+ ms := by
  obtain ⟨left, rest, right, rfl, rfl⟩ := h.taken
  intro ns hns
  have hcases : ns ∈ left ∨ ns = rest ∨ ns ∈ right := by simpa using hns
  rcases hcases with hleft | rfl | hright
  · exact ⟨ns, List.mem_append_left _ hleft, List.suffix_refl ns⟩
  · exact ⟨n :: ns, by simp, List.suffix_cons n ns⟩
  · exact ⟨ns, by simp [hright], List.suffix_refl ns⟩

end TakesLeast

namespace Strand

def pending (gone : List Int) (s : Strand) : List Int :=
  s.head?.toList ++ kept gone (toList s.expansion)

theorem pending_of_none {gone : List Int} {s : Strand} (h : s.head? = none) :
    s.pending gone = kept gone (toList s.expansion) := by
  rw [pending, h, Option.toList_none, List.nil_append]

theorem pending_of_some {gone : List Int} {s : Strand} {n : Int} (h : s.head? = some n) :
    s.pending gone = n :: pending gone { s with head? := none } := by
  rw [pending, h, Option.toList_some, List.singleton_append, pending_of_none rfl]

theorem mem_pending_of_none {gone : List Int} {s : Strand} (h : s.head? = none) {n : Int} :
    n ∈ s.pending gone ↔ n ∈ toList s.expansion ∧ n ∉ gone := by
  rw [pending_of_none h, mem_kept]

def IsFilled (gone : List Int) (s : Strand) : Prop :=
  s.head? = (s.pending gone).head?

theorem fill_spec {gone : List Int} {x : Exclusion} (hx : x.Removes gone) (s : Strand) :
    (fill x s).1.pending gone = s.pending gone ∧ (fill x s).1.IsFilled gone ∧
      (fill x s).2.Removes gone := by
  unfold fill
  split
  · next n hs =>
    refine ⟨rfl, ?_, hx⟩
    rw [IsFilled, pending_of_some hs, List.head?_cons, hs]
  · next hs =>
    obtain ⟨hhead, hrest, hx'⟩ := hx.nextKept s.expansion
    have hpend : pending gone ⟨(nextKept x s.expansion).2.1, (nextKept x s.expansion).1⟩ =
        s.pending gone := by
      rw [pending_of_none hs, pending, hhead, hrest]
      cases kept gone (toList s.expansion) with
      | nil => rfl
      | cons n ns => rfl
    refine ⟨hpend, ?_, hx'⟩
    show (nextKept x s.expansion).1 = _
    rw [hpend, pending_of_none hs, hhead]

theorem fillAll_spec {gone : List Int} {x : Exclusion} (hx : x.Removes gone) (ss : List Strand) :
    (fillAll x ss).1.map (pending gone) = ss.map (pending gone) ∧
      (∀ s ∈ (fillAll x ss).1, s.IsFilled gone) ∧ (fillAll x ss).2.Removes gone := by
  induction ss generalizing x with
  | nil => exact ⟨rfl, fun s hs => absurd hs List.not_mem_nil, hx⟩
  | cons s ss ih =>
    obtain ⟨hpend, hfilled, hx'⟩ := fill_spec hx s
    obtain ⟨hpends, hfilleds, hx''⟩ := ih hx'
    simp only [fillAll, List.map_cons]
    exact ⟨by rw [hpend, hpends], List.forall_mem_cons.2 ⟨hfilled, hfilleds⟩, hx''⟩

theorem empty_of_takeEarliest_eq_none {gone : List Int} {ss : List Strand}
    (hfilled : ∀ s ∈ ss, s.IsFilled gone) (h : takeEarliest ss = none) :
    ∀ ns ∈ ss.map (pending gone), ns = [] := by
  intro ns hns
  obtain ⟨s, hs, rfl⟩ := List.mem_map.1 hns
  have hhead : s.head? = none := takeEarliest_eq_none_iff.1 h s hs
  rw [hfilled s hs] at hhead
  exact List.head?_eq_none_iff.1 hhead

theorem exists_of_takeEarliest {ss rest : List Strand} {n : Int}
    (h : takeEarliest ss = some (n, rest)) :
    (∀ s ∈ ss, ∀ k, s.head? = some k → n ≤ k) ∧
      ∃ left s right, ss = left ++ s :: right ∧ s.head? = some n ∧
        rest = left ++ { s with head? := none } :: right := by
  induction ss generalizing n rest with
  | nil => simp [takeEarliest] at h
  | cons s ss ih =>
    have hself {k : Int} (hk : s.head? = some k) : ∀ m, s.head? = some m → k ≤ m :=
      fun m hm => Int.le_of_eq (Option.some.inj (hk.symm.trans hm))
    unfold takeEarliest at h
    split at h
    · next hhead =>
      obtain ⟨⟨k, rest'⟩, hrest, heq⟩ := Option.map_eq_some_iff.1 h
      obtain ⟨rfl, rfl⟩ := Prod.mk.inj heq
      obtain ⟨hleast, left, t, right, rfl, ht, rfl⟩ := ih hrest
      have hnone : ∀ m, s.head? = some m → k ≤ m := fun m hm => by simp [hhead] at hm
      exact ⟨List.forall_mem_cons.2 ⟨hnone, hleast⟩, s :: left, t, right, rfl, ht, rfl⟩
    · next k hhead hrest =>
      obtain ⟨rfl, rfl⟩ := Prod.mk.inj (Option.some.inj h)
      have hnone := takeEarliest_eq_none_iff.1 hrest
      have hothers : ∀ t ∈ ss, ∀ m, t.head? = some m → k ≤ m :=
        fun t ht m hm => by simp [hnone t ht] at hm
      exact ⟨List.forall_mem_cons.2 ⟨hself hhead, hothers⟩, [], s, ss, rfl, hhead, rfl⟩
    · next k m rest' hhead hrest =>
      obtain ⟨hleast, left, t, right, rfl, ht, rfl⟩ := ih hrest
      split at h
      · next hmk =>
        obtain ⟨rfl, rfl⟩ := Prod.mk.inj (Option.some.inj h)
        have hfirst : ∀ l, s.head? = some l → m ≤ l :=
          fun l hl => Int.le_trans hmk (hself hhead l hl)
        exact ⟨List.forall_mem_cons.2 ⟨hfirst, hleast⟩, s :: left, t, right, rfl, ht, rfl⟩
      · next hmk =>
        obtain ⟨rfl, rfl⟩ := Prod.mk.inj (Option.some.inj h)
        have hothers : ∀ u ∈ left ++ t :: right, ∀ l, u.head? = some l → k ≤ l :=
          fun u hu l hl => Int.le_trans (Int.le_of_lt (Int.not_le.1 hmk)) (hleast u hu l hl)
        exact ⟨List.forall_mem_cons.2 ⟨hself hhead, hothers⟩, [], s, _, rfl, hhead, rfl⟩

end Strand

namespace SetRun

/-- What each rule has still to deliver, and after the rules the dates. -/
def streams (gone : List Int) (run : SetRun) : List (List Int) :=
  run.strands.map (Strand.pending gone) ++ [kept gone run.dates]

def prepared (run : SetRun) : SetRun :=
  let (strands, x) := Strand.fillAll run.exclusion run.strands
  let (dates, x) := x.dropExcluded run.dates
  ⟨strands, dates, x⟩

structure Prepared (gone : List Int) (run : SetRun) : Prop where
  streams : run.prepared.streams gone = run.streams gone
  removes : run.prepared.exclusion.Removes gone
  filled : ∀ s ∈ run.prepared.strands, s.IsFilled gone
  first : ∀ d ds, run.prepared.dates = d :: ds → d ∉ gone
  dates : run.prepared.dates <:+ run.dates

theorem prepared_of_removes {gone : List Int} {run : SetRun} (h : run.exclusion.Removes gone) :
    Prepared gone run := by
  obtain ⟨hpend, hfilled, hx⟩ := Strand.fillAll_spec h run.strands
  obtain ⟨hkept, hsuffix, hhead, hx'⟩ := hx.dropExcluded run.dates
  have hstreams : run.prepared.streams gone = run.streams gone := by
    rw [SetRun.streams, prepared, hpend, hkept, SetRun.streams]
  exact ⟨hstreams, hx', hfilled, hhead, hsuffix⟩

theorem ended_of_next {run run' : SetRun} (h : run.next = (none, run')) :
    Strand.takeEarliest run.prepared.strands = none ∧ run.prepared.dates = [] := by
  unfold next at h
  dsimp only at h
  split at h
  · next hearliest hdates => exact ⟨hearliest, hdates⟩
  · simp at h
  · simp at h
  · split at h <;> simp at h

theorem cases_of_next {run run' : SetRun} {n : Int} (h : run.next = (some n, run')) :
    (∀ s ∈ run.prepared.strands, ∀ k, s.head? = some k → n ≤ k) ∧
      (∀ d ds, run.prepared.dates = d :: ds → n ≤ d) ∧
      ((∃ ds, run.prepared.dates = n :: ds ∧
          run' = ⟨run.prepared.strands, ds, run.prepared.exclusion⟩) ∨
        ∃ left s right, run.prepared.strands = left ++ s :: right ∧ s.head? = some n ∧
          run' = ⟨left ++ { s with head? := none } :: right, run.prepared.dates,
            run.prepared.exclusion⟩) := by
  have hself {d : Int} {ds : List Int} (hdates : run.prepared.dates = d :: ds) :
      ∀ c cs, run.prepared.dates = c :: cs → d ≤ c :=
    fun c cs hcs => Int.le_of_eq (List.cons.inj (hdates.symm.trans hcs)).1
  unfold next at h
  dsimp only at h
  split at h
  · simp at h
  · next d ds hearliest hdates =>
    obtain ⟨hd, rfl⟩ := Prod.mk.inj h
    obtain rfl := Option.some.inj hd
    have hnone := Strand.takeEarliest_eq_none_iff.1 hearliest
    exact ⟨fun s hs k hk => by simp [hnone s hs] at hk, hself hdates, Or.inl ⟨ds, hdates, rfl⟩⟩
  · next m rest hearliest hdates =>
    obtain ⟨hm, rfl⟩ := Prod.mk.inj h
    obtain rfl := Option.some.inj hm
    obtain ⟨hleast, left, s, right, hstrands, hs, rfl⟩ := Strand.exists_of_takeEarliest hearliest
    have hempty : run.prepared.dates = [] := hdates
    have hlater : ∀ d ds, run.prepared.dates = d :: ds → m ≤ d :=
      fun d ds hds => by simp [hempty] at hds
    refine ⟨hleast, hlater, Or.inr ⟨left, s, right, hstrands, hs, ?_⟩⟩
    rw [hempty]
    rfl
  · next m rest d ds hearliest hdates =>
    obtain ⟨hleast, left, s, right, hstrands, hs, rfl⟩ := Strand.exists_of_takeEarliest hearliest
    split at h
    · -- at the same second the date comes first
      next hdm =>
      obtain ⟨hd, rfl⟩ := Prod.mk.inj h
      obtain rfl := Option.some.inj hd
      exact ⟨fun t ht k hk => Int.le_trans hdm (hleast t ht k hk), hself hdates,
        Or.inl ⟨ds, hdates, rfl⟩⟩
    · next hdm =>
      obtain ⟨hm, rfl⟩ := Prod.mk.inj h
      obtain rfl := Option.some.inj hm
      have hcons : run.prepared.dates = d :: ds := hdates
      have hlater : ∀ c cs, run.prepared.dates = c :: cs → m ≤ c :=
        fun c cs hcs => Int.le_trans (Int.le_of_lt (Int.not_le.1 hdm)) (hself hcons c cs hcs)
      refine ⟨hleast, hlater, Or.inr ⟨left, s, right, hstrands, hs, ?_⟩⟩
      rw [hcons]
      rfl

theorem empty_of_next_eq_none {gone : List Int} {run run' : SetRun}
    (h : run.exclusion.Removes gone) (hnext : run.next = (none, run')) :
    ∀ ns ∈ run.streams gone, ns = [] := by
  have hprep := prepared_of_removes h
  obtain ⟨hearliest, hdates⟩ := ended_of_next hnext
  rw [← hprep.streams, streams, hdates]
  have hrules := Strand.empty_of_takeEarliest_eq_none hprep.filled hearliest
  exact List.forall_mem_append.2 ⟨hrules, by simp [kept]⟩

theorem next_takesLeast {gone : List Int} {run run' : SetRun} {n : Int}
    (h : run.exclusion.Removes gone) (hnext : run.next = (some n, run')) :
    TakesLeast n (run.streams gone) (run'.streams gone) ∧ run'.exclusion.Removes gone ∧
      run'.dates <:+ run.dates := by
  have hprep := prepared_of_removes h
  obtain ⟨hstrands, hdates, hcases⟩ := cases_of_next hnext
  have hleast : NoneEarlier n (run.streams gone) := by
    rw [← hprep.streams]
    intro ns hns k hk
    rcases List.mem_append.1 hns with hns | hns
    · obtain ⟨s, hs, rfl⟩ := List.mem_map.1 hns
      exact hstrands s hs k ((hprep.filled s hs).trans hk)
    · rw [List.mem_singleton.1 hns] at hk
      cases hd : run.prepared.dates with
      | nil => simp [hd, kept] at hk
      | cons d ds =>
        rw [hd, kept_cons_of_not_mem _ (hprep.first d ds hd)] at hk
        exact Option.some.inj hk ▸ hdates d ds hd
  rcases hcases with ⟨ds, hd, rfl⟩ | ⟨left, s, right, hsplit, hs, rfl⟩
  · refine ⟨⟨⟨_, kept gone ds, [], ?_, rfl⟩, hleast⟩, hprep.removes, ?_⟩
    · rw [← hprep.streams, streams, hd, kept_cons_of_not_mem _ (hprep.first n ds hd)]
    · exact (List.suffix_cons n ds).trans (hd ▸ hprep.dates)
  · refine ⟨⟨⟨left.map (Strand.pending gone), Strand.pending gone { s with head? := none },
      right.map (Strand.pending gone) ++ [kept gone run.prepared.dates], ?_, ?_⟩, hleast⟩,
      hprep.removes, hprep.dates⟩
    · rw [← hprep.streams, streams, hsplit, List.map_append, List.map_cons,
        Strand.pending_of_some hs, List.append_assoc, List.cons_append]
    · rw [streams, List.map_append, List.map_cons, List.append_assoc, List.cons_append]

end SetRun

end Almanac
