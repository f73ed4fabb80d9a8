import Almanac.Toml.Document
import Almanac.Proofs.Text.Number

/-! Documents as they are written. A text in quotes with its escapes, a whole number and a truth
value are read back from what is written of them, and so are lines that set one each under a key of
two names: `DottedLine.read?_flatMap_text`. -/

namespace Almanac.Toml

def escape (c : Char) : List Char :=
  if c = '"' ∨ c = '\\' then ['\\', c]
  else if isControl c then
    ['\\', 'u', '0', '0', Nat.digitChar (c.toNat / 16), Nat.digitChar (c.toNat % 16)]
  else [c]

def writeText (cs : List Char) : List Char :=
  '"' :: (cs.flatMap escape ++ ['"'])

theorem toNat_lt_of_isControl {c : Char} (h : isControl c = true) : c.toNat < 128 := by
  simp only [isControl, Bool.or_eq_true, Bool.and_eq_true, decide_eq_true_eq, beq_iff_eq] at h
  omega

theorem charOfHex?_digitChar {n : Nat} (h : n < 128) :
    charOfHex? ['0', '0', Nat.digitChar (n / 16), Nat.digitChar (n % 16)] =
      some (Char.ofNat n) := by
  revert n
  decide +kernel

theorem readBasic_escape (before : List Char) (c : Char) (rest : List Char) :
    readBasic before (escape c ++ rest) = readBasic (c :: before) rest := by
  unfold escape
  split
  · next hmark =>
    rcases hmark with rfl | rfl
    · simp [readBasic, escape?]
    · simp [readBasic, escape?]
  · next hmark =>
    split
    · next hcontrol =>
      have hread := charOfHex?_digitChar (toNat_lt_of_isControl hcontrol)
      rw [Char.ofNat_toNat] at hread
      simp [readBasic, hread]
    · next hcontrol =>
      obtain ⟨hquote, hslash⟩ := not_or.1 hmark
      simp [readBasic, hslash, hcontrol]

theorem readBasic_flatMap_escape (before cs rest : List Char) :
    readBasic before (cs.flatMap escape ++ '"' :: rest) = some (before.reverse ++ cs, rest) := by
  induction cs generalizing before with
  | nil => simp [readBasic]
  | cons c cs ih =>
    rw [List.flatMap_cons, List.append_assoc, readBasic_escape, ih]
    simp

/-- What is written is read as a value where a line ends behind it. -/
def ReadsAs (cs : List Char) (value : Value) : Prop :=
  ∀ limit rest, readValue? (limit + 1) (skipSpace (' ' :: (cs ++ '\n' :: rest))) =
    some (value, '\n' :: rest)

theorem exists_escape (c : Char) : ∃ d ds, escape c = d :: ds ∧ d ≠ '"' := by
  unfold escape
  split
  · exact ⟨_, _, rfl, by decide⟩
  · next hmark =>
    split
    · exact ⟨_, _, rfl, by decide⟩
    · exact ⟨_, _, rfl, fun h => hmark (Or.inl h)⟩

theorem readString?_writeText {cs : List Char} (h : cs ≠ []) (rest : List Char) :
    readString? (writeText cs ++ rest) = some (String.ofList cs, rest) := by
  obtain ⟨c, cs, rfl⟩ := List.exists_cons_of_ne_nil h
  have hread := readBasic_flatMap_escape [] (c :: cs) rest
  -- three quotes would open a text on several lines, but the second character is none
  obtain ⟨d, ds, hescape, hd⟩ := exists_escape c
  rw [List.flatMap_cons, hescape] at hread
  simp only [writeText, List.flatMap_cons, hescape, List.cons_append, List.append_assoc,
    List.nil_append] at hread ⊢
  simp [readString?, hread, hd]

theorem readsAs_writeText {cs : List Char} (h : cs ≠ []) :
    ReadsAs (writeText cs) (.text (String.ofList cs)) := by
  intro limit rest
  have hread := readString?_writeText h ('\n' :: rest)
  have hspace : skipSpace (' ' :: (writeText cs ++ '\n' :: rest)) = writeText cs ++ '\n' :: rest :=
    rfl
  rw [hspace]
  rw [writeText, List.cons_append] at hread ⊢
  simp only [readValue?, hread]
  rfl

/-! Numbers and words. -/

theorem takeScalar_append {cs : List Char} (h : ∀ c ∈ cs, isScalarChar c = true)
    (rest : List Char) : takeScalar (cs ++ '\n' :: rest) = (cs, '\n' :: rest) := by
  have hword : (cs ++ '\n' :: rest).takeWhile isScalarChar = cs := by
    rw [List.takeWhile_append_of_pos h, List.takeWhile_cons_of_neg (by decide), List.append_nil]
  rw [takeScalar.eq_def]
  simp only [hword, List.drop_left]
  rfl

theorem readValue?_skipSpace {c : Char} (h : isScalarChar c = true) (limit : Nat)
    (cs : List Char) :
    readValue? (limit + 1) (skipSpace (' ' :: c :: cs)) = readScalar? (c :: cs) := by
  have hspace : isSpace c = false := by
    rw [Bool.eq_false_iff]
    intro hc
    rcases (by simpa [isSpace] using hc : c = ' ' ∨ c = '\t') with rfl | rfl
    · exact absurd h (by decide)
    · exact absurd h (by decide)
  have hskip : skipSpace (' ' :: c :: cs) = c :: cs := by
    rw [skipSpace, List.dropWhile_cons_of_pos (by decide),
      List.dropWhile_cons_of_neg (Bool.not_eq_true _ ▸ hspace)]
  have hother {d : Char} (hd : isScalarChar d = false) : c ≠ d := by
    rintro rfl
    exact absurd (h.symm.trans hd) (by decide)
  have hlist : c ≠ '[' := hother (by decide)
  have htable : c ≠ '\x7b' := hother (by decide)
  have hquote : c ≠ '"' := hother (by decide)
  have hliteral : c ≠ '\'' := hother (by decide)
  rw [hskip]
  simp [readValue?, hlist, htable, hquote, hliteral]

theorem readsAs_of_readScalar? {cs : List Char} {value : Value} (hne : cs ≠ [])
    (h : ∀ c ∈ cs, isScalarChar c = true)
    (hread : ∀ rest, readScalar? (cs ++ '\n' :: rest) = some (value, '\n' :: rest)) :
    ReadsAs cs value := by
  intro limit rest
  obtain ⟨c, others, rfl⟩ := List.exists_cons_of_ne_nil hne
  rw [List.cons_append, readValue?_skipSpace (h c List.mem_cons_self)]
  exact hread rest

def writeBoolean (b : Bool) : List Char :=
  if b then "true".toList else "false".toList

theorem readsAs_writeBoolean (b : Bool) : ReadsAs (writeBoolean b) (.boolean b) := by
  have hall : (writeBoolean b).all isScalarChar = true := by
    cases b <;> decide
  have hword := List.all_eq_true.1 hall
  refine readsAs_of_readScalar? (by cases b <;> decide) hword fun rest => ?_
  rw [readScalar?, takeScalar_append hword]
  cases b <;> rfl

theorem joinDigits?_of_digits {ds : List Char} (hne : ds ≠ []) (h : ∀ d ∈ ds, d.isDigit = true) :
    joinDigits? Char.isDigit ds = some ds := by
  have hmark : '_' ∉ ds := fun hmem => absurd (h '_' hmem) (by decide)
  simpa [joinDigits?, List.splitOn_eq_singleton hmark, hne] using h

theorem readWhole?_writeNat (n : Nat) : readWhole? (Text.writeNat n) = some n := by
  have hdigits : ∀ d ∈ Text.writeNat n, d.isDigit = true := fun d => Text.isDigit_of_mem_writeNat
  have hlead : ¬((Text.writeNat n).length > 1 ∧ (Text.writeNat n).head? = some '0') :=
    fun h => Text.head?_writeNat h.1 h.2
  simp only [readWhole?, joinDigits?_of_digits (Text.writeNat_ne_nil n) hdigits, bind,
    Option.bind, if_neg hlead, Text.readDigits?_writeNat]

theorem readInteger?_of_digits {ds : List Char} (h : ∀ d ∈ ds, d.isDigit = true) :
    readInteger? ds = ((readWhole? ds).map Int.ofNat).filter
      fun n => -9223372036854775808 ≤ n ∧ n ≤ 9223372036854775807 := by
  have hbase {c : Char} {others : List Char} (heq : ds = '0' :: c :: others) : c.isDigit = true :=
    h c (heq ▸ List.mem_cons_of_mem _ List.mem_cons_self)
  have hsign : splitSign ds = (false, ds) := by
    unfold splitSign
    split
    · exact absurd (h '-' List.mem_cons_self) (by decide)
    · exact absurd (h '+' List.mem_cons_self) (by decide)
    · rfl
  unfold readInteger?
  split
  · exact absurd (hbase rfl) (by decide)
  · exact absurd (hbase rfl) (by decide)
  · exact absurd (hbase rfl) (by decide)
  · simp only [hsign]
    rfl

theorem readInteger?_writeInt {n : Int}
    (h : -9223372036854775808 ≤ n ∧ n ≤ 9223372036854775807) :
    readInteger? (Text.writeInt n) = some n := by
  unfold Text.writeInt
  split
  · next hnegative =>
    have hminus : readInteger? ('-' :: Text.writeNat n.natAbs) =
        ((readWhole? (Text.writeNat n.natAbs)).map fun n => -Int.ofNat n).filter
          fun n => -9223372036854775808 ≤ n ∧ n ≤ 9223372036854775807 := rfl
    have hvalue : -Int.ofNat n.natAbs = n := by
      rw [Int.ofNat_eq_natCast]
      omega
    rw [hminus, readWhole?_writeNat, Option.map_some, hvalue]
    exact Option.filter_some_pos (decide_eq_true h)
  · next hpositive =>
    have hvalue : Int.ofNat n.natAbs = n := by
      rw [Int.ofNat_eq_natCast]
      omega
    rw [readInteger?_of_digits fun d => Text.isDigit_of_mem_writeNat, readWhole?_writeNat,
      Option.map_some, hvalue]
    exact Option.filter_some_pos (decide_eq_true h)

theorem isScalarChar_of_mem_writeInt {n : Int} {c : Char} (h : c ∈ Text.writeInt n) :
    isScalarChar c = true := by
  have hdigit (hc : c ∈ Text.writeNat n.natAbs) : isScalarChar c = true := by
    simp [isScalarChar, Char.isAlphanum, Text.isDigit_of_mem_writeNat hc]
  unfold Text.writeInt at h
  split at h
  · rcases List.mem_cons.1 h with rfl | hc
    · rfl
    · exact hdigit hc
  · exact hdigit h

theorem readsAs_writeInt {n : Int} (h : -9223372036854775808 ≤ n ∧ n ≤ 9223372036854775807) :
    ReadsAs (Text.writeInt n) (.integer n) := by
  have hread := readInteger?_writeInt h
  -- words that are no numbers are other texts
  have hother {word : List Char} (hnone : readInteger? word = none) : Text.writeInt n ≠ word := by
    rintro rfl
    exact nomatch hnone.symm.trans hread
  have hne : Text.writeInt n ≠ [] := hother (by decide)
  have htrue : Text.writeInt n ≠ "true".toList := hother (by decide)
  have hfalse : Text.writeInt n ≠ "false".toList := hother (by decide)
  refine readsAs_of_readScalar? hne (fun c => isScalarChar_of_mem_writeInt) fun rest => ?_
  rw [readScalar?, takeScalar_append fun c => isScalarChar_of_mem_writeInt]
  simp only [if_neg htrue, if_neg hfalse, hread]

/-! Lines. -/

structure IsBareKey (key : List Char) : Prop where
  ne_nil : key ≠ []
  isKeyChar : ∀ c ∈ key, isKeyChar c = true

/-- The line that sets a value under two names with a dot between. -/
structure DottedLine where
  table : List Char
  key : List Char
  chars : List Char
  value : Value
  isBareTable : IsBareKey table
  isBareKey : IsBareKey key
  readsAs : ReadsAs chars value

theorem ne_of_isKeyChar {c d : Char} (hc : isKeyChar c = true) (hd : isKeyChar d = false) :
    c ≠ d := by
  rintro rfl
  exact absurd (hc.symm.trans hd) (by decide)

theorem isSpace_of_isKeyChar {c : Char} (h : isKeyChar c = true) : isSpace c = false := by
  have hspace : c ≠ ' ' := ne_of_isKeyChar h (by decide)
  have htab : c ≠ '\t' := ne_of_isKeyChar h (by decide)
  simp [isSpace, hspace, htab]

theorem skipSpace_cons_of_neg {c : Char} (h : isSpace c = false) (cs : List Char) :
    skipSpace (c :: cs) = c :: cs :=
  List.dropWhile_cons_of_neg (Bool.not_eq_true _ ▸ h)

variable {key table : List Char}

theorem readKey?_append (h : IsBareKey key) {d : Char} (hd : isKeyChar d = false)
    (rest : List Char) :
    readKey? (skipSpace (key ++ d :: rest)) = some (String.ofList key, d :: rest) := by
  have hkey : (key ++ d :: rest).takeWhile isKeyChar = key := by
    rw [List.takeWhile_append_of_pos h.isKeyChar,
      List.takeWhile_cons_of_neg (Bool.not_eq_true _ ▸ hd), List.append_nil]
  obtain ⟨c, cs, rfl⟩ := List.exists_cons_of_ne_nil h.ne_nil
  have hc : isKeyChar c = true := h.isKeyChar c List.mem_cons_self
  have hquote : c ≠ '"' := ne_of_isKeyChar hc (by decide)
  have hliteral : c ≠ '\'' := ne_of_isKeyChar hc (by decide)
  rw [List.cons_append, skipSpace_cons_of_neg (isSpace_of_isKeyChar hc)]
  rw [List.cons_append] at hkey
  simp [readKey?, hquote, hliteral, hkey]

theorem readKeyPath?_append (htable : IsBareKey table) (hkey : IsBareKey key) (limit : Nat)
    (rest : List Char) :
    readKeyPath? (limit + 2) (table ++ '.' :: (key ++ ' ' :: '=' :: rest)) =
      some ([String.ofList table, String.ofList key], '=' :: rest) := by
  have hdot : skipSpace ('.' :: (key ++ ' ' :: '=' :: rest)) = '.' :: (key ++ ' ' :: '=' :: rest) :=
    rfl
  have hequals : skipSpace (' ' :: '=' :: rest) = '=' :: rest := rfl
  rw [readKeyPath?, readKey?_append htable (by decide)]
  simp only [bind, Option.bind, hdot]
  rw [readKeyPath?, readKey?_append hkey (by decide)]
  simp only [bind, Option.bind, hequals]
  rfl

theorem skipBlank_cons {c : Char} (h : isKeyChar c = true) (cs : List Char) :
    skipBlank false (c :: cs) = some (c :: cs) := by
  have hbreak : c ≠ '\n' := ne_of_isKeyChar h (by decide)
  have hreturn : c ≠ '\r' := ne_of_isKeyChar h (by decide)
  have hcomment : c ≠ '#' := ne_of_isKeyChar h (by decide)
  simp [skipBlank, hreturn, hcomment, isSpace_of_isKeyChar h]

namespace DottedLine

def text (l : DottedLine) : List Char :=
  l.table ++ '.' :: (l.key ++ ' ' :: '=' :: ' ' :: (l.chars ++ ['\n']))

def set (es : Entries) (l : DottedLine) : Option Entries :=
  es.put l.value [String.ofList l.table, String.ofList l.key]

variable (l : DottedLine) (rest : List Char)

theorem text_append :
    l.text ++ rest =
      l.table ++ '.' :: (l.key ++ ' ' :: '=' :: ' ' :: (l.chars ++ '\n' :: rest)) := by
  simp [text]

theorem exists_text_append : ∃ c cs, l.text ++ rest = c :: cs ∧ isKeyChar c = true := by
  obtain ⟨c, cs, hcs⟩ := List.exists_cons_of_ne_nil l.isBareTable.ne_nil
  have htext := l.text_append rest
  rw [hcs, List.cons_append] at htext
  exact ⟨c, _, htext, l.isBareTable.isKeyChar c (hcs ▸ List.mem_cons_self)⟩

theorem readLines?_text_append (limit : Nat) (es : Entries) :
    readLines? (limit + 1) ⟨es, []⟩ (l.text ++ rest) =
      (set es l).bind fun es => readLines? limit ⟨es, []⟩ rest := by
  obtain ⟨c, others, hothers, hc⟩ := l.exists_text_append rest
  have hheader : c ≠ '[' := ne_of_isKeyChar hc (by decide)
  have hpath := readKeyPath?_append l.isBareTable l.isBareKey others.length
    (' ' :: (l.chars ++ '\n' :: rest))
  rw [← text_append, hothers] at hpath
  have hread := l.readsAs (2 * others.length + 3) rest
  have hset : Entries.changeAt
      (Entries.put l.value [String.ofList l.table, String.ofList l.key]) [] es = set es l := rfl
  rw [hothers, readLines?]
  simp only [skipBlank_cons hc, bind, Option.bind]
  -- the line begins with a key, and so it is neither the end nor a header
  split
  · next heq => exact nomatch heq
  · next heq => exact absurd (List.cons.inj heq).1 hheader
  · next heq => exact absurd (List.cons.inj heq).1 hheader
  · have hsize : (c :: others).length + 1 = others.length + 2 := rfl
    have hlimit : 2 * (others.length + 2) = 2 * others.length + 3 + 1 := by omega
    simp only [hsize, hpath, hlimit, hread, hset]
    cases set es l <;> rfl

theorem readLines?_flatMap_text (lines : List DottedLine) (more : Nat) (es : Entries) :
    readLines? (more + lines.length + 1) ⟨es, []⟩ (lines.flatMap text) = lines.foldlM set es := by
  induction lines generalizing es with
  | nil => rfl
  | cons l lines ih =>
    rw [List.flatMap_cons, List.length_cons, ← Nat.add_assoc, readLines?_text_append,
      List.foldlM_cons]
    exact congrArg _ (funext ih)

theorem length_le_flatMap_text (lines : List DottedLine) :
    lines.length ≤ (lines.flatMap text).length := by
  induction lines with
  | nil => exact Nat.le_refl 0
  | cons l lines ih =>
    obtain ⟨c, cs, hcs, -⟩ := l.exists_text_append []
    have hline : l.text.length = cs.length + 1 := by
      rw [← List.length_cons, ← hcs, List.append_nil]
    rw [List.flatMap_cons, List.length_append, List.length_cons]
    omega

theorem read?_flatMap_text (lines : List DottedLine) :
    read? (String.ofList (lines.flatMap text)) = lines.foldlM set [] := by
  have hmark : (lines.flatMap text).head? ≠ some '\ufeff' := by
    cases lines with
    | nil => exact nofun
    | cons l lines =>
      obtain ⟨c, cs, hcs, hc⟩ := l.exists_text_append (lines.flatMap text)
      rw [List.flatMap_cons, hcs, List.head?_cons]
      exact fun h => absurd (Option.some.inj h) (ne_of_isKeyChar hc (by decide))
  obtain ⟨more, hmore⟩ := Nat.exists_eq_add_of_le' (length_le_flatMap_text lines)
  rw [read?]
  simp only [String.toList_ofList, if_neg hmark]
  rw [hmore, readLines?_flatMap_text]

end DottedLine

end Almanac.Toml
