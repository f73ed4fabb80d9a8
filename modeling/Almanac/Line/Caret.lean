/-!
Caret escapes in parameter values: `^^` is a caret, `^n` a line break and `^'` a double quote. A
caret before anything else stands for itself, so every text decodes. Main statement:
`decode_encode`.
-/

namespace Almanac.Caret

def encode : List Char → List Char
  | [] => []
  | '^' :: cs => '^' :: '^' :: encode cs
  | '\n' :: cs => '^' :: 'n' :: encode cs
  | '"' :: cs => '^' :: '\'' :: encode cs
  | c :: cs => c :: encode cs

def decode : List Char → List Char
  | [] => []
  | '^' :: '^' :: cs => '^' :: decode cs
  | '^' :: 'n' :: cs => '\n' :: decode cs
  | '^' :: 'N' :: cs => '\n' :: decode cs
  | '^' :: '\'' :: cs => '"' :: decode cs
  | c :: cs => c :: decode cs

theorem decode_cons_of_ne {c : Char} (h : c ≠ '^') (cs : List Char) :
    decode (c :: cs) = c :: decode cs := by
  cases cs with
  | nil => simp [decode]
  | cons d ds => simp [decode, h]

theorem decode_encode (cs : List Char) : decode (encode cs) = cs := by
  fun_induction encode cs with
  | case1 => rfl
  | case2 cs ih => simp [decode, ih]
  | case3 cs ih => simp [decode, ih]
  | case4 cs ih => simp [decode, ih]
  | case5 c cs h _ _ ih => rw [decode_cons_of_ne (by simpa using h), ih]

theorem quote_not_mem_encode (cs : List Char) : '"' ∉ encode cs := by
  fun_induction encode cs with
  | case1 => simp
  | case2 cs ih => simp [ih]
  | case3 cs ih => simp [ih]
  | case4 cs ih => simp [ih]
  | case5 c cs _ _ h ih => exact fun hm => (List.mem_cons.1 hm).elim (fun e => h e.symm) ih

end Almanac.Caret
