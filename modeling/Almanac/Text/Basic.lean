/-!
Plain text as lists of characters: its length in UTF-8 bytes, white space, and the ways a text is
cut apart. Cutting loses nothing: the pieces and the separators give back the text.
-/

namespace Almanac.Text

def byteLength : List Char → Nat
  | [] => 0
  | c :: cs => c.utf8Size + byteLength cs

@[simp] theorem byteLength_nil : byteLength [] = 0 := rfl

@[simp] theorem byteLength_cons (c : Char) (cs : List Char) :
    byteLength (c :: cs) = c.utf8Size + byteLength cs := rfl

@[simp] theorem byteLength_append (as bs : List Char) :
    byteLength (as ++ bs) = byteLength as + byteLength bs := by
  induction as with
  | nil => simp
  | cons a as ih => simp [ih, Nat.add_assoc]

/-- White space in the sense of the Unicode property `White_Space`. -/
def isBlank (c : Char) : Bool :=
  let n := c.toNat
  (0x9 ≤ n && n ≤ 0xd) || n == 0x20 || n == 0x85 || n == 0xa0 || n == 0x1680
    || (0x2000 ≤ n && n ≤ 0x200a) || n == 0x2028 || n == 0x2029 || n == 0x202f
    || n == 0x205f || n == 0x3000

def dropEndWhile (p : Char → Bool) (cs : List Char) : List Char :=
  (cs.reverse.dropWhile p).reverse

def trimStart (cs : List Char) : List Char :=
  cs.dropWhile isBlank

def trimEnd (cs : List Char) : List Char :=
  dropEndWhile isBlank cs

def trim (cs : List Char) : List Char :=
  trimEnd (trimStart cs)

def isAllBlank (cs : List Char) : Bool :=
  cs.all isBlank

/-- What stands before and after the first character that satisfies `p`. -/
def cut? (p : Char → Bool) : List Char → Option (List Char × List Char)
  | [] => none
  | c :: cs => if p c then some ([], cs) else (cut? p cs).map fun r => (c :: r.1, r.2)

theorem cut?_eq_none_iff {p : Char → Bool} {cs : List Char} :
    cut? p cs = none ↔ ∀ c ∈ cs, p c = false := by
  induction cs with
  | nil => simp [cut?]
  | cons c cs ih => cases h : p c <;> simp [cut?, h, ih]

theorem eq_append_of_cut? {p : Char → Bool} {cs as bs : List Char}
    (h : cut? p cs = some (as, bs)) :
    ∃ c, cs = as ++ c :: bs ∧ p c = true ∧ ∀ a ∈ as, p a = false := by
  induction cs generalizing as with
  | nil => simp [cut?] at h
  | cons c cs ih =>
    cases hc : p c with
    | true =>
      simp only [cut?, hc, if_pos] at h
      obtain ⟨rfl, rfl⟩ := Prod.mk.injEq .. ▸ Option.some.inj h
      exact ⟨c, rfl, hc, by simp⟩
    | false =>
      simp only [cut?, hc, Bool.false_eq_true, if_false, Option.map_eq_some_iff] at h
      obtain ⟨⟨as', bs'⟩, hr, he⟩ := h
      simp only [Prod.mk.injEq] at he
      obtain ⟨rfl, rfl⟩ := he
      obtain ⟨d, rfl, hd, hall⟩ := ih hr
      exact ⟨d, rfl, hd, by simpa [hc] using hall⟩

theorem cut?_append_cons {p : Char → Bool} {c : Char} (hc : p c = true) {as : List Char}
    (h : ∀ a ∈ as, p a = false) (bs : List Char) : cut? p (as ++ c :: bs) = some (as, bs) := by
  induction as with
  | nil => simp [cut?, hc]
  | cons a as ih =>
    obtain ⟨ha, has⟩ := List.forall_mem_cons.1 h
    simp [cut?, ha, ih has]

theorem cut?_append_of_not_mem {c : Char} {as : List Char} (h : c ∉ as) (bs : List Char) :
    cut? (· == c) (as ++ c :: bs) = some (as, bs) := by
  have hbefore : ∀ a ∈ as, (a == c) = false := by
    intro a ha
    rw [beq_eq_false_iff_ne]
    rintro rfl
    exact h ha
  exact cut?_append_cons (p := (· == c)) (beq_self_eq_true c) hbefore bs

theorem cut?_of_not_mem {c : Char} {cs : List Char} (h : c ∉ cs) : cut? (· == c) cs = none := by
  refine cut?_eq_none_iff.2 fun a ha => ?_
  rw [beq_eq_false_iff_ne]
  rintro rfl
  exact h ha

def stripPrefix? (start : List Char) (cs : List Char) : Option (List Char) :=
  if start.isPrefixOf cs then some (cs.drop start.length) else none

def asciiUpper (s : String) : String :=
  String.ofList (s.toList.map Char.toUpper)

def asciiLower (s : String) : String :=
  String.ofList (s.toList.map Char.toLower)

end Almanac.Text
