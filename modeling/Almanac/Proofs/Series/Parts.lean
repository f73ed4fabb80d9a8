import Almanac.Series.Basic

/-! The parts of a series. Each line joins what it adds to the end of a part, so that a part holds
what the lines add to it, one after the other. -/

namespace Almanac.Series

variable {f : Frame}

/-- Lines join what they add to the end of a part. -/
def IsJoined {α : Type} (f : Frame) (part : Series → List α) : Prop :=
  ∀ s c, part (s.add c) = part s ++ part ((ofFrame f).add c)

namespace IsJoined

variable {α : Type} {part : Series → List α}

theorem empty (h : IsJoined f part) : part (ofFrame f) = [] := by
  have hself : part (ofFrame f) = part (ofFrame f) ++ part (ofFrame f) := h (ofFrame f) .nothing
  exact List.append_right_eq_self.1 hself.symm

theorem foldl_eq (h : IsJoined f part) (cs : List Contribution) (s : Series) :
    part (cs.foldl add s) = part s ++ cs.flatMap fun c => part ((ofFrame f).add c) := by
  induction cs generalizing s with
  | nil => rw [List.foldl_nil, List.flatMap_nil, List.append_nil]
  | cons c cs ih => rw [List.foldl_cons, ih, h s c, List.flatMap_cons, List.append_assoc]

theorem mem_foldl_iff (h : IsJoined f part) {cs : List Contribution} {a : α} :
    a ∈ part (cs.foldl add (ofFrame f)) ↔
      ∃ c ∈ cs, c ≠ .nothing ∧ a ∈ part ((ofFrame f).add c) := by
  rw [h.foldl_eq, h.empty, List.nil_append, List.mem_flatMap]
  constructor
  · rintro ⟨c, hc, ha⟩
    refine ⟨c, hc, ?_, ha⟩
    rintro rfl
    have hnone : a ∈ part (ofFrame f) := ha
    rw [h.empty] at hnone
    exact absurd hnone List.not_mem_nil
  · rintro ⟨c, hc, -, ha⟩
    exact ⟨c, hc, ha⟩

theorem mem_congr (h : IsJoined f part) {cs ds : List Contribution}
    (hsame : ∀ c, c ≠ .nothing → (c ∈ cs ↔ c ∈ ds)) (a : α) :
    a ∈ part (cs.foldl add (ofFrame f)) ↔ a ∈ part (ds.foldl add (ofFrame f)) := by
  rw [h.mem_foldl_iff, h.mem_foldl_iff]
  apply exists_congr
  intro c
  constructor
  · rintro ⟨hc, hadds, ha⟩
    exact ⟨(hsame c hadds).1 hc, hadds, ha⟩
  · rintro ⟨hc, hadds, ha⟩
    exact ⟨(hsame c hadds).2 hc, hadds, ha⟩

end IsJoined

theorem wholeDay_add (s : Series) (c : Contribution) : (s.add c).wholeDay = s.wholeDay := by
  cases c <;> rfl

theorem wholeDay_foldl (cs : List Contribution) (s : Series) :
    (cs.foldl add s).wholeDay = s.wholeDay := by
  induction cs generalizing s with
  | nil => rfl
  | cons c cs ih => rw [List.foldl_cons, ih, wholeDay_add]

theorem isJoined_parts (f : Frame) :
    IsJoined f (fun s => s.set.rules) ∧ IsJoined f (fun s => s.set.exclusionRules) ∧
      IsJoined f (fun s => s.set.dates) ∧ IsJoined f (fun s => s.set.exclusionDates) ∧
        IsJoined f (fun s => s.wholeDays) := by
  refine ⟨?_, ?_, ?_, ?_, ?_⟩ <;> intro s c <;> cases c <;> simp [add, addDates, ofFrame]

end Almanac.Series
