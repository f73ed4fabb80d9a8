import Almanac.Zone.Resolution

/-! What a resolver remembers is what it would find again, so that its answers do not depend on what
it was asked before: `resolveAll_eq_map_resolve`. -/

namespace Almanac

theorem Zone.resolve_eq_error_iff {identifier : String} {e : ZoneError} :
    resolve identifier = .error e ↔
      (∀ zone, resolve identifier ≠ .ok zone) ∧ e = .unknownZone identifier := by
  unfold resolve
  dsimp only
  split
  · simp
  · split
    · simp
    · simp [eq_comm]

namespace Resolver

/-- Every zone remembered is the one that its identifier names. -/
def Faithful (r : Resolver) : Prop :=
  ∀ identifier zone, r.found.lookup identifier = some zone → Zone.resolve identifier = .ok zone

theorem faithful_empty : Faithful {} := by
  intro identifier zone h
  simp at h

theorem Faithful.cons {r : Resolver} (h : r.Faithful) {identifier : String} {zone : Zone}
    (hzone : Zone.resolve identifier = .ok zone) : Faithful ⟨(identifier, zone) :: r.found⟩ := by
  intro other found hfound
  rw [List.lookup_cons] at hfound
  split at hfound
  · next heq =>
    rw [eq_of_beq heq, hzone, Option.some.inj hfound]
  · exact h other found hfound

theorem Faithful.resolve {r : Resolver} (h : r.Faithful) (identifier : String) :
    (r.resolve identifier).1 = Zone.resolve identifier ∧ (r.resolve identifier).2.Faithful := by
  unfold Resolver.resolve
  split
  · next zone hfound => exact ⟨(h identifier zone hfound).symm, h⟩
  · split
    · next zone hzone => exact ⟨hzone.symm, h.cons hzone⟩
    · next e hzone => exact ⟨hzone.symm, h⟩

theorem Faithful.lookup_resolve {r : Resolver} (h : r.Faithful) (identifier : String)
    {other : String} {zone : Zone} :
    (r.resolve identifier).2.found.lookup other = some zone ↔
      r.found.lookup other = some zone ∨ other = identifier ∧ Zone.resolve other = .ok zone := by
  unfold Resolver.resolve
  split
  · next known hfound =>
    -- what is asked for again is there already
    refine ⟨Or.inl, ?_⟩
    rintro (hother | ⟨rfl, hzone⟩)
    · exact hother
    · have hknown := h other known hfound
      rw [hfound, Except.ok.inj (hknown.symm.trans hzone)]
  · next hnew =>
    split
    · next named hnamed =>
      rw [List.lookup_cons]
      by_cases hother : other = identifier
      · subst hother
        simp [hnew, hnamed]
      · simp [hother, beq_eq_false_iff_ne.2 hother]
    · next e he =>
      refine ⟨Or.inl, ?_⟩
      rintro (hother | ⟨rfl, hzone⟩)
      · exact hother
      · exact nomatch he.symm.trans hzone

def resolveAll (r : Resolver) : List String → List (Except ZoneError Zone) × Resolver
  | [] => ([], r)
  | identifier :: later =>
    let (answer, r) := r.resolve identifier
    let (answers, r) := r.resolveAll later
    (answer :: answers, r)

theorem Faithful.resolveAll {r : Resolver} (h : r.Faithful) (identifiers : List String) :
    (r.resolveAll identifiers).1 = identifiers.map Zone.resolve ∧
      ∀ other zone, (r.resolveAll identifiers).2.found.lookup other = some zone ↔
        r.found.lookup other = some zone ∨ other ∈ identifiers ∧ Zone.resolve other = .ok zone := by
  induction identifiers generalizing r with
  | nil => exact ⟨rfl, fun other zone => by simp [Resolver.resolveAll]⟩
  | cons identifier later ih =>
    obtain ⟨hanswer, hafter⟩ := h.resolve identifier
    obtain ⟨hanswers, hfound⟩ := ih hafter
    refine ⟨?answers, fun other zone => ?memory⟩
    case answers =>
      show (r.resolve identifier).1 :: ((r.resolve identifier).2.resolveAll later).1 = _
      rw [hanswer, hanswers, List.map_cons]
    case memory =>
      show ((r.resolve identifier).2.resolveAll later).2.found.lookup other = some zone ↔ _
      rw [hfound, h.lookup_resolve, List.mem_cons, or_assoc, or_and_right]

/-- A resolver that starts with an empty memory answers each identifier, whatever was asked for
before it, as one without a memory does: with the zone that it names, or else with an error that holds
the identifier as given. Afterwards it remembers those that name a zone, and no others. -/
theorem resolveAll_eq_map_resolve (identifiers : List String) :
    (resolveAll {} identifiers).1 = identifiers.map Zone.resolve ∧
      (∀ identifier e, (identifier, .error e) ∈ identifiers.zip (resolveAll {} identifiers).1 →
        e = .unknownZone identifier) ∧
      ∀ identifier zone, (resolveAll {} identifiers).2.found.lookup identifier = some zone ↔
        identifier ∈ identifiers ∧ Zone.resolve identifier = .ok zone := by
  obtain ⟨hanswers, hfound⟩ := faithful_empty.resolveAll identifiers
  refine ⟨hanswers, fun identifier e hmem => ?error, fun identifier zone => ?memory⟩
  case error =>
    rw [hanswers, ← List.map_prod_left_eq_zip, List.mem_map] at hmem
    obtain ⟨given, -, hpair⟩ := hmem
    obtain ⟨rfl, herror⟩ := Prod.mk.inj hpair
    exact (Zone.resolve_eq_error_iff.1 herror).2
  case memory =>
    rw [hfound]
    simp

/-- Two spellings of a name are remembered apart, and each once. -/
example :
    (resolveAll {} ["Africa/Sao_Tome", " Africa/Sao_Tome", "Africa/Sao_Tome"]).2.found.map Prod.fst =
      [" Africa/Sao_Tome", "Africa/Sao_Tome"] := by
  decide +kernel

end Resolver

end Almanac
