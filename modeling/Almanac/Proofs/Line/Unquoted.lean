import Almanac.Line.ContentLine
import Almanac.Proofs.Except

/-! Quotes hide the characters that separate. A text hides a separator if every quote of it is closed
and the separator stands between quotes wherever it occurs. Such texts are what the search for the
first colon finds before it, and what a cut at separators leaves: `cutHead_eq_ok_iff` and
`splitUnquoted_eq_iff`. -/

namespace Almanac.ContentLine

/-- Every quote is closed, in a text that may begin between quotes. -/
def Closed : Bool → List Char → Prop
  | quoted, [] => quoted = false
  | quoted, c :: cs => Closed (quoted != (c == '"')) cs

/-- Every quote is closed, and the separator stands between quotes only. -/
def Hides (separator : Char) : Bool → List Char → Prop
  | quoted, [] => quoted = false
  | quoted, c :: cs => ¬(c = separator ∧ quoted = false) ∧ Hides separator (quoted != (c == '"')) cs

variable {separator other : Char} {quoted : Bool} {cs : List Char}

theorem Hides.closed (h : Hides separator quoted cs) : Closed quoted cs := by
  induction cs generalizing quoted with
  | nil => exact h
  | cons c cs ih => exact ih h.2

theorem hides_iff_not_mem (h : '"' ∉ cs) : Hides separator false cs ↔ separator ∉ cs := by
  induction cs with
  | nil => simp [Hides]
  | cons c cs ih =>
    obtain ⟨hc, hcs⟩ := not_or.1 (mt List.mem_cons.2 h)
    have hsame : (false != (c == '"')) = false := by simpa using Ne.symm hc
    rw [Hides, hsame, ih hcs, List.mem_cons, not_or]
    simp only [and_true, eq_comm]

theorem hides_cons_of_ne {c : Char} (hquote : c ≠ '"') (hne : c ≠ separator) :
    Hides separator false (c :: cs) ↔ Hides separator false cs := by
  have hsame : (false != (c == '"')) = false := by simpa using hquote
  rw [Hides, hsame]
  exact and_iff_right fun hfirst => hne hfirst.1

theorem closed_append {as : List Char} (h : Closed quoted as) (bs : List Char) :
    Closed quoted (as ++ bs) ↔ Closed false bs := by
  induction as generalizing quoted with
  | nil =>
    obtain rfl : quoted = false := h
    rfl
  | cons a as ih => exact ih h

theorem hides_append {as : List Char} (h : Closed quoted as) (bs : List Char) :
    Hides separator quoted (as ++ bs) ↔ Hides separator quoted as ∧ Hides separator false bs := by
  induction as generalizing quoted with
  | nil =>
    obtain rfl : quoted = false := h
    simp [Hides]
  | cons a as ih =>
    rw [List.cons_append, Hides, Hides, ih h, and_assoc]

theorem hides_true_append (h : '"' ∉ cs) (rest : List Char) :
    Hides separator true (cs ++ '"' :: rest) ↔ Hides separator false rest := by
  induction cs with
  | nil => simp [Hides]
  | cons c cs ih =>
    obtain ⟨hc, hcs⟩ := not_or.1 (mt List.mem_cons.2 h)
    have hsame : (true != (c == '"')) = true := by simpa using Ne.symm hc
    rw [List.cons_append, Hides, hsame, ih hcs]
    simp

theorem hides_quoted (hseparator : separator ≠ '"') (h : '"' ∉ cs) :
    Hides separator false ('"' :: (cs ++ ['"'])) := by
  refine ⟨fun hfirst => hseparator hfirst.1.symm, ?_⟩
  exact (hides_true_append h []).2 rfl

theorem intercalate_cons_of_ne_nil (piece : List Char) {pieces : List (List Char)}
    (h : pieces ≠ []) :
    [separator].intercalate (piece :: pieces) =
      piece ++ separator :: [separator].intercalate pieces := by
  obtain ⟨next, others, rfl⟩ := List.exists_cons_of_ne_nil h
  rw [List.intercalate_cons_cons, List.append_assoc, List.singleton_append]

def terminated (separator : Char) (pieces : List (List Char)) : List Char :=
  pieces.flatMap (· ++ [separator])

theorem terminated_cons (piece : List Char) (pieces : List (List Char)) :
    terminated separator (piece :: pieces) = piece ++ separator :: terminated separator pieces := by
  rw [terminated, List.flatMap_cons, List.append_assoc]
  rfl

theorem intercalate_append_cons (before : List (List Char)) (raw : List Char)
    (later : List (List Char)) :
    [separator].intercalate (before ++ raw :: later) =
      terminated separator before ++ [separator].intercalate (raw :: later) := by
  induction before with
  | nil => rfl
  | cons piece before ih =>
    have hne : before ++ raw :: later ≠ [] :=
      List.append_ne_nil_of_right_ne_nil _ (List.cons_ne_nil _ _)
    rw [List.cons_append, intercalate_cons_of_ne_nil piece hne, ih, terminated_cons,
      List.append_assoc, List.cons_append]

theorem append_terminated_cons (ahead piece : List Char) (pieces : List (List Char)) :
    ahead ++ piece ++ [separator] ++ terminated separator pieces =
      ahead ++ terminated separator (piece :: pieces) := by
  simp [terminated_cons]

theorem withOffsets_cons (hsize : separator.utf8Size = 1) (ahead piece : List Char)
    (pieces : List (List Char)) :
    withOffsets (Text.byteLength ahead) (piece :: pieces) =
      (Text.byteLength ahead, piece) ::
        withOffsets (Text.byteLength (ahead ++ piece ++ [separator])) pieces := by
  have hnext : Text.byteLength (ahead ++ piece ++ [separator]) =
      Text.byteLength ahead + Text.byteLength piece + 1 := by
    simp [hsize, Nat.add_assoc]
  rw [hnext]
  rfl

theorem withOffsets_append (hsize : separator.utf8Size = 1) (ahead : List Char)
    (before later : List (List Char)) :
    withOffsets (Text.byteLength ahead) (before ++ later) =
      withOffsets (Text.byteLength ahead) before ++
        withOffsets (Text.byteLength (ahead ++ terminated separator before)) later := by
  induction before generalizing ahead with
  | nil =>
    rw [terminated, List.flatMap_nil, List.append_nil]
    rfl
  | cons piece before ih =>
    rw [List.cons_append, withOffsets_cons hsize, withOffsets_cons hsize, ih,
      append_terminated_cons, List.cons_append]

theorem closed_intercalate (hquote : separator ≠ '"') {pieces : List (List Char)}
    (h : ∀ piece ∈ pieces, Closed false piece) : Closed false ([separator].intercalate pieces) := by
  induction pieces with
  | nil => rfl
  | cons piece pieces ih =>
    obtain ⟨hpiece, hpieces⟩ := List.forall_mem_cons.1 h
    cases pieces with
    | nil => simpa using hpiece
    | cons next others =>
      have hsame : (false != (separator == '"')) = false := by simpa using hquote
      rw [intercalate_cons_of_ne_nil _ (List.cons_ne_nil _ _), closed_append hpiece, Closed, hsame]
      exact ih hpieces

theorem hides_intercalate (hquote : separator ≠ '"') (hne : separator ≠ other)
    {pieces : List (List Char)} (h : ∀ piece ∈ pieces, Closed false piece) :
    Hides other false ([separator].intercalate pieces) ↔
      ∀ piece ∈ pieces, Hides other false piece := by
  induction pieces with
  | nil => simp [Hides]
  | cons piece pieces ih =>
    obtain ⟨hpiece, hpieces⟩ := List.forall_mem_cons.1 h
    cases pieces with
    | nil => simp
    | cons next others =>
      rw [intercalate_cons_of_ne_nil _ (List.cons_ne_nil _ _), hides_append hpiece,
        hides_cons_of_ne hquote hne, ih hpieces, List.forall_mem_cons (l := next :: others)]

def quoteAfter (quote : Option Nat) (offset : Nat) (c : Char) : Option Nat :=
  if c = '"' then
    match quote with
    | none => some offset
    | some _ => none
  else quote

theorem isSome_quoteAfter (quote : Option Nat) (offset : Nat) (c : Char) :
    (quoteAfter quote offset c).isSome = (quote.isSome != (c == '"')) := by
  unfold quoteAfter
  split
  · next hc => cases quote <;> simp [hc]
  · next hc =>
    have hsame : (c == '"') = false := by simpa using hc
    rw [hsame, Bool.bne_false]

theorem cutHead_cons {quote : Option Nat} {c : Char} (h : ¬(c = ':' ∧ quote = none)) (offset : Nat)
    (cs : List Char) :
    cutHead quote offset (c :: cs) =
      (cutHead (quoteAfter quote offset c) (offset + c.utf8Size) cs).map
        fun cut => (c :: cut.1, cut.2) := by
  rw [cutHead.eq_def]
  simp only [if_neg h]
  unfold quoteAfter
  generalize cutHead _ (offset + c.utf8Size) cs = cut
  cases cut <;> rfl

theorem cutHead_eq_ok_iff {quote : Option Nat} {offset : Nat} {head value : List Char} :
    cutHead quote offset cs = .ok (head, value) ↔
      cs = head ++ ':' :: value ∧ Hides ':' quote.isSome head := by
  induction cs generalizing quote offset head with
  | nil => simp [cutHead]
  | cons c cs ih =>
    by_cases hend : c = ':' ∧ quote = none
    · -- the colon ends the head, and no longer head would hide it
      have hcut : cutHead quote offset (c :: cs) = .ok ([], cs) := by
        simp only [cutHead, if_pos hend]
      obtain ⟨rfl, rfl⟩ := hend
      rw [hcut]
      cases head with
      | nil => simp [Hides, eq_comm]
      | cons a head =>
        refine iff_of_false (by simp) ?_
        rintro ⟨hcons, hhides⟩
        obtain ⟨rfl, -⟩ := List.cons.inj hcons
        exact hhides.1 ⟨rfl, rfl⟩
    · rw [cutHead_cons hend, map_eq_ok_iff]
      cases head with
      | nil =>
        refine iff_of_false (by simp) ?_
        rintro ⟨hcons, hclosed⟩
        obtain ⟨rfl, -⟩ := List.cons.inj hcons
        exact hend ⟨rfl, Option.isNone_iff_eq_none.1 (Option.isSome_eq_false_iff.1 hclosed)⟩
      | cons a head =>
        have hstep : (∃ cut, cutHead (quoteAfter quote offset c) (offset + c.utf8Size) cs =
            .ok cut ∧ (c :: cut.1, cut.2) = (a :: head, value)) ↔
            c = a ∧ cutHead (quoteAfter quote offset c) (offset + c.utf8Size) cs =
              .ok (head, value) := by
          constructor
          · rintro ⟨cut, hok, hcons⟩
            obtain ⟨⟨rfl, rfl⟩, rfl⟩ := hcons
            exact ⟨rfl, hok⟩
          · rintro ⟨rfl, hok⟩
            exact ⟨(head, value), hok, rfl⟩
        have hopen (hca : c = a) : ¬(a = ':' ∧ quote.isSome = false) := by
          rintro ⟨rfl, hnone⟩
          exact hend ⟨hca, Option.isNone_iff_eq_none.1 (Option.isSome_eq_false_iff.1 hnone)⟩
        rw [hstep, ih, isSome_quoteAfter, List.cons_append, List.cons.injEq, and_assoc, Hides]
        refine and_congr_right fun hca => and_congr_right fun _ => ?_
        rw [hca]
        exact (and_iff_right (hopen hca)).symm

theorem splitUnquoted_ne_nil (separator : Char) (quoted : Bool) (cs : List Char) :
    splitUnquoted separator quoted cs ≠ [] := by
  cases cs with
  | nil => exact List.cons_ne_nil _ _
  | cons c cs =>
    rw [splitUnquoted]
    split
    · exact List.cons_ne_nil _ _
    · split <;> exact List.cons_ne_nil _ _

theorem exists_splitUnquoted (separator : Char) (quoted : Bool) (cs : List Char) :
    ∃ piece pieces, splitUnquoted separator quoted cs = piece :: pieces :=
  List.exists_cons_of_ne_nil (splitUnquoted_ne_nil separator quoted cs)

theorem splitUnquoted_cons {c : Char} (h : ¬(c = separator ∧ quoted = false))
    {piece : List Char} {pieces : List (List Char)}
    (hrest : splitUnquoted separator (quoted != (c == '"')) cs = piece :: pieces) :
    splitUnquoted separator quoted (c :: cs) = (c :: piece) :: pieces := by
  rw [splitUnquoted, if_neg h, hrest]

theorem splitUnquoted_append_cons {piece : List Char} (h : Hides separator quoted piece)
    (rest : List Char) :
    splitUnquoted separator quoted (piece ++ separator :: rest) =
      piece :: splitUnquoted separator false rest := by
  induction piece generalizing quoted with
  | nil =>
    obtain rfl : quoted = false := h
    rw [List.nil_append, splitUnquoted, if_pos ⟨rfl, rfl⟩]
  | cons c piece ih => exact splitUnquoted_cons h.1 (ih h.2)

theorem intercalate_cons_cons_head (c : Char) (piece : List Char) (pieces : List (List Char)) :
    [separator].intercalate ((c :: piece) :: pieces) =
      c :: [separator].intercalate (piece :: pieces) := by
  cases pieces with
  | nil => simp
  | cons next others => simp

theorem splitUnquoted_eq_iff (hquote : separator ≠ '"') (hclosed : Closed quoted cs)
    {piece : List Char} {pieces : List (List Char)} :
    splitUnquoted separator quoted cs = piece :: pieces ↔
      cs = [separator].intercalate (piece :: pieces) ∧ Hides separator quoted piece ∧
        ∀ p ∈ pieces, Hides separator false p := by
  induction cs generalizing quoted piece pieces with
  | nil =>
    obtain rfl : quoted = false := hclosed
    cases piece with
    | nil =>
      cases pieces with
      | nil => simp [splitUnquoted, Hides]
      | cons next others => simp [splitUnquoted]
    | cons a piece => simp [splitUnquoted]
  | cons c cs ih =>
    by_cases hend : c = separator ∧ quoted = false
    · -- the piece ends before the separator, and no longer piece would hide it
      obtain ⟨rfl, rfl⟩ := hend
      have hsame : (false != (c == '"')) = false := by simpa using hquote
      have hrest : Closed false cs := hsame ▸ hclosed
      have hcut : splitUnquoted c false (c :: cs) = [] :: splitUnquoted c false cs := by
        rw [splitUnquoted, if_pos ⟨rfl, rfl⟩]
      rw [hcut]
      cases piece with
      | nil =>
        cases pieces with
        | nil => simp [splitUnquoted_ne_nil]
        | cons next others =>
          rw [List.cons.injEq, ih hrest, intercalate_cons_of_ne_nil _ (List.cons_ne_nil _ _),
            List.nil_append, List.cons.injEq, List.forall_mem_cons]
          simp [Hides]
      | cons a piece =>
        refine iff_of_false (by simp) ?_
        rintro ⟨hcons, hhides, -⟩
        rw [intercalate_cons_cons_head] at hcons
        obtain ⟨rfl, -⟩ := List.cons.inj hcons
        exact hhides.1 ⟨rfl, rfl⟩
    · obtain ⟨first, others, hrest⟩ :=
        exists_splitUnquoted separator (quoted != (c == '"')) cs
      rw [splitUnquoted_cons hend hrest]
      cases piece with
      | nil =>
        refine iff_of_false (by simp) ?_
        rintro ⟨hcons, hopen, -⟩
        obtain rfl : quoted = false := hopen
        cases pieces with
        | nil => simp at hcons
        | cons next others =>
          rw [intercalate_cons_of_ne_nil _ (List.cons_ne_nil _ _)] at hcons
          obtain ⟨rfl, -⟩ := List.cons.inj hcons
          exact hend ⟨rfl, rfl⟩
      | cons a piece =>
        rw [List.cons.injEq, List.cons.injEq, and_assoc, intercalate_cons_cons_head,
          List.cons.injEq, and_assoc]
        refine and_congr_right fun hca => ?_
        subst hca
        have hstep : splitUnquoted separator (quoted != (c == '"')) cs = piece :: pieces ↔ _ :=
          ih hclosed
        rw [hrest, List.cons.injEq] at hstep
        rw [hstep, Hides]
        exact and_congr_right fun _ => and_congr_left fun _ => (and_iff_right hend).symm

theorem splitUnquoted_intercalate (hquote : separator ≠ '"') {pieces : List (List Char)}
    (hne : pieces ≠ []) (h : ∀ piece ∈ pieces, Hides separator false piece) :
    splitUnquoted separator false ([separator].intercalate pieces) = pieces := by
  have hclosed : Closed false ([separator].intercalate pieces) :=
    closed_intercalate hquote fun piece hpiece => (h piece hpiece).closed
  obtain ⟨first, others, rfl⟩ := List.exists_cons_of_ne_nil hne
  exact (splitUnquoted_eq_iff hquote hclosed).2 ⟨rfl, List.forall_mem_cons.1 h⟩

theorem intercalate_splitUnquoted (hquote : separator ≠ '"') (h : Closed false cs) :
    [separator].intercalate (splitUnquoted separator false cs) = cs := by
  obtain ⟨piece, pieces, hsplit⟩ := exists_splitUnquoted separator false cs
  rw [hsplit]
  exact ((splitUnquoted_eq_iff hquote h).1 hsplit).1.symm

theorem hides_of_mem_splitUnquoted (hquote : separator ≠ '"') (h : Closed false cs) :
    ∀ piece ∈ splitUnquoted separator false cs, Hides separator false piece := by
  obtain ⟨piece, pieces, hsplit⟩ := exists_splitUnquoted separator false cs
  rw [hsplit]
  exact List.forall_mem_cons.2 ((splitUnquoted_eq_iff hquote h).1 hsplit).2

theorem hides_other_of_mem_splitUnquoted (hquote : separator ≠ '"') (hne : separator ≠ other)
    (h : Hides other false cs) :
    ∀ piece ∈ splitUnquoted separator false cs, Hides other false piece := by
  have hpieces := hides_of_mem_splitUnquoted hquote h.closed
  apply (hides_intercalate hquote hne fun piece hpiece => (hpieces piece hpiece).closed).1
  rw [intercalate_splitUnquoted hquote h.closed]
  exact h

/-- A line cut at its first colon outside quotes, and the part before that at its semicolons. -/
structure LineCut (line name : List Char) (segments : List (List Char)) (value : List Char) :
    Prop where
  line_eq : line = [';'].intercalate (name :: segments) ++ ':' :: value
  hides : ∀ piece ∈ name :: segments, ∀ separator ∈ [';', ':'], Hides separator false piece

theorem lineCut_iff {line name value : List Char} {segments : List (List Char)} :
    LineCut line name segments value ↔
      ∃ head, cutHead none 0 line = .ok (head, value) ∧
        splitUnquoted ';' false head = name :: segments := by
  constructor
  · rintro ⟨rfl, hhides⟩
    have hsemicolons : ∀ piece ∈ name :: segments, Hides ';' false piece :=
      fun piece hpiece => hhides piece hpiece ';' (by decide)
    have hcolons : ∀ piece ∈ name :: segments, Hides ':' false piece :=
      fun piece hpiece => hhides piece hpiece ':' (by decide)
    refine ⟨_, cutHead_eq_ok_iff.2 ⟨rfl, ?_⟩,
      splitUnquoted_intercalate (by decide) (List.cons_ne_nil _ _) hsemicolons⟩
    exact (hides_intercalate (by decide) (by decide)
      fun piece hpiece => (hsemicolons piece hpiece).closed).2 hcolons
  · rintro ⟨head, hcut, hsplit⟩
    obtain ⟨rfl, hcolon⟩ := cutHead_eq_ok_iff.1 hcut
    refine ⟨by rw [← hsplit, intercalate_splitUnquoted (by decide) hcolon.closed], ?_⟩
    rw [← hsplit]
    intro piece hpiece
    simp only [List.forall_mem_cons, List.not_mem_nil, false_implies, implies_true, and_true]
    exact ⟨hides_of_mem_splitUnquoted (by decide) hcolon.closed piece hpiece,
      hides_other_of_mem_splitUnquoted (by decide) (by decide) hcolon piece hpiece⟩

end Almanac.ContentLine
