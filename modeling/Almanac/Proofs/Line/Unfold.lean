import Almanac.Line.Unfold
import Mathlib.Data.List.Nodup
import Mathlib.Data.List.TakeWhile
import Mathlib.Data.List.Zip

/-! Unfolding. A logical line keeps the number of the physical line on which it starts, these
numbers rise, and logical lines joined by line breaks are read as themselves:
`chars_split_intercalate`. -/

namespace Almanac

namespace Text

theorem dropEndWhile_isPrefix (p : Char → Bool) (cs : List Char) : dropEndWhile p cs <+: cs := by
  rw [dropEndWhile, ← List.reverse_suffix, List.reverse_reverse]
  exact List.dropWhile_suffix p

theorem getLast?_dropEndWhile {p : Char → Bool} {cs : List Char} {c : Char}
    (h : (dropEndWhile p cs).getLast? = some c) : p c = false := by
  rw [dropEndWhile, List.getLast?_reverse] at h
  have := List.head?_dropWhile_not p cs.reverse
  rw [h] at this
  simpa using this

theorem dropEndWhile_of_getLast? {p : Char → Bool} {cs : List Char}
    (h : ∀ c, cs.getLast? = some c → p c = false) : dropEndWhile p cs = cs := by
  rw [dropEndWhile, List.reverse_eq_iff]
  cases hr : cs.reverse with
  | nil => rfl
  | cons c rest =>
    refine List.dropWhile_cons_of_neg ?_
    have hlast : cs.getLast? = some c := by rw [← List.head?_reverse, hr, List.head?_cons]
    rw [h c hlast]
    exact Bool.false_ne_true

theorem dropEndWhile_cons {p : Char → Bool} {c : Char} (h : p c = false) (cs : List Char) :
    ∃ rest, dropEndWhile p (c :: cs) = c :: rest := by
  rcases List.prefix_cons_iff.1 (dropEndWhile_isPrefix p (c :: cs)) with hnil | ⟨rest, hrest, -⟩
  · have hall := List.dropWhile_eq_nil_iff.1 (List.reverse_eq_nil_iff.1 hnil)
    have hc := hall c (List.mem_reverse.2 List.mem_cons_self)
    rw [h] at hc
    exact absurd hc Bool.false_ne_true
  · exact ⟨rest, hrest⟩

theorem dropEndWhile_append {p : Char → Bool} {bs : List Char} (h : dropEndWhile p bs ≠ [])
    (as : List Char) : dropEndWhile p (as ++ bs) = as ++ dropEndWhile p bs := by
  have hne : ¬(bs.reverse.dropWhile p).isEmpty = true := by
    rw [List.isEmpty_iff]
    exact fun hnil => h (List.reverse_eq_nil_iff.2 hnil)
  rw [dropEndWhile, List.reverse_append, List.dropWhile_append, if_neg hne, List.reverse_append,
    List.reverse_reverse]
  rfl

theorem not_mem_of_mem_splitOn {a : Char} {cs piece : List Char} (h : piece ∈ cs.splitOn a) :
    a ∉ piece := by
  induction cs generalizing piece with
  | nil =>
    rw [List.splitOn_nil, List.mem_singleton] at h
    rw [h]
    exact List.not_mem_nil
  | cons c cs ih =>
    rw [List.splitOn_cons_eq_if_modifyHead] at h
    split at h
    · rcases List.mem_cons.1 h with rfl | h
      · exact List.not_mem_nil
      · exact ih h
    · next hc =>
      rcases hpieces : cs.splitOn a with _ | ⟨first, others⟩
      · exact absurd hpieces (List.splitOn_ne_nil a cs)
      · rw [hpieces] at h ih
        rcases List.mem_cons.1 h with rfl | h
        · have hne : a ≠ c := fun heq => hc (by simp [heq])
          exact List.not_mem_cons_of_ne_of_not_mem hne (ih List.mem_cons_self)
        · exact ih (List.mem_cons_of_mem first h)

theorem intercalate_append (sep : List Char) {as bs : List (List Char)} (has : as ≠ [])
    (hbs : bs ≠ []) :
    sep.intercalate (as ++ bs) = sep.intercalate as ++ sep ++ sep.intercalate bs := by
  induction as with
  | nil => exact absurd rfl has
  | cons a as ih =>
    cases as with
    | nil =>
      obtain ⟨b, others, rfl⟩ := List.exists_cons_of_ne_nil hbs
      rw [List.singleton_append, List.intercalate_cons_cons, List.intercalate_singleton]
    | cons a' as =>
      rw [List.cons_append, List.cons_append, List.intercalate_cons_cons, ← List.cons_append,
        ih (List.cons_ne_nil a' as), List.intercalate_cons_cons]
      simp only [List.append_assoc]

theorem splitOn_intercalate {separator : String} {c : Char} (hseparator : separator.toList = [c])
    {pieces : List (List Char)} (h : ∀ piece ∈ pieces, c ∉ piece) (hne : pieces ≠ []) :
    (separator.intercalate (pieces.map String.ofList)).toList.splitOn c = pieces := by
  have hchars : (pieces.map String.ofList).map String.toList = pieces := by
    rw [List.map_map]
    exact (List.map_congr_left fun piece _ => String.toList_ofList).trans (List.map_id _)
  rw [String.toList_intercalate, hchars, hseparator]
  exact List.splitOn_intercalate c h hne

end Text

namespace LogicalLine

/-- The line could stand in a text as it is: it starts with something that is not blank, and neither
a line break nor the end of one is lost in it. -/
structure IsUnfolded (cs : List Char) : Prop where
  head : ∃ c rest, cs = c :: rest ∧ Text.isBlank c = false
  noBreak : '\n' ∉ cs
  noReturn : ∀ c, cs.getLast? = some c → (c == '\r') = false

theorem noBreak_of_mem_physicalLines {text : List Char} {p : Nat × List Char}
    (h : p ∈ physicalLines text) : '\n' ∉ p.2 := by
  obtain ⟨piece, hpiece, heq⟩ := List.mem_map.1 (List.of_mem_zip h).2
  rw [← heq]
  exact fun hmem => Text.not_mem_of_mem_splitOn hpiece
    ((Text.dropEndWhile_isPrefix _ _).subset hmem)

theorem noReturn_of_mem_physicalLines {text : List Char} {p : Nat × List Char}
    (h : p ∈ physicalLines text) (c : Char) (hc : p.2.getLast? = some c) :
    (c == '\r') = false := by
  obtain ⟨piece, -, heq⟩ := List.mem_map.1 (List.of_mem_zip h).2
  rw [← heq] at hc
  exact Text.getLast?_dropEndWhile (p := (· == '\r')) hc

def numbered (number : Nat) (lines : List (List Char)) : List (Nat × List Char) :=
  (lines.zipIdx number).map Prod.swap

theorem numbered_cons (number : Nat) (line : List Char) (lines : List (List Char)) :
    numbered number (line :: lines) = (number, line) :: numbered (number + 1) lines :=
  rfl

theorem numbered_append (number : Nat) (lines lines' : List (List Char)) :
    numbered number (lines ++ lines') =
      numbered number lines ++ numbered (number + lines.length) lines' := by
  rw [numbered, List.zipIdx_append, List.map_append]
  rfl

theorem mem_of_mem_numbered {number : Nat} {lines : List (List Char)} {p : Nat × List Char}
    (h : p ∈ numbered number lines) : p.2 ∈ lines := by
  obtain ⟨q, hq, rfl⟩ := List.mem_map.1 h
  exact List.fst_mem_of_mem_zipIdx hq

theorem physicalLines_eq (text : List Char) :
    physicalLines text =
      numbered 1 ((text.splitOn '\n').map (Text.dropEndWhile (· == '\r'))) := by
  rw [physicalLines, numbered, List.zipIdx_eq_zip_range', List.zip_swap]

theorem pairwise_physicalLines (text : List Char) :
    (physicalLines text).Pairwise fun p q => p.1 < q.1 := by
  have hnumbers : ((physicalLines text).map Prod.fst).Pairwise (· < ·) := by
    rw [physicalLines, List.map_fst_zip (Nat.le_of_eq List.length_range')]
    exact List.pairwise_lt_range'
  exact List.pairwise_map.1 hnumbers

theorem exists_cons_trimStart {line : List Char} (h : ¬Text.isAllBlank line = true) :
    ∃ c rest, Text.trimStart line = c :: rest ∧ Text.isBlank c = false := by
  cases htrim : Text.trimStart line with
  | nil => exact absurd (List.all_eq_true.2 (List.dropWhile_eq_nil_iff.1 htrim)) h
  | cons c rest =>
    have hhead := List.head?_dropWhile_not Text.isBlank line
    rw [← Text.trimStart, htrim] at hhead
    exact ⟨c, rest, rfl, by simpa using hhead⟩

theorem isUnfolded_trimStart {line : List Char} (hblank : ¬Text.isAllBlank line = true)
    (hbreak : '\n' ∉ line) (hreturn : ∀ c, line.getLast? = some c → (c == '\r') = false) :
    IsUnfolded (Text.trimStart line) where
  head := exists_cons_trimStart hblank
  noBreak hmem := hbreak ((List.dropWhile_suffix _).subset hmem)
  noReturn c hc := by
    obtain ⟨front, hfront⟩ : Text.trimStart line <:+ line := List.dropWhile_suffix _
    refine hreturn c ?_
    rw [← hfront, List.getLast?_append, hc, Option.some_or]

theorem IsUnfolded.append {cs more line : List Char} (h : IsUnfolded cs) {blank : Char}
    (hline : line = blank :: more) (hmark : Text.isBlank blank = true)
    (hblank : ¬Text.isAllBlank line = true) (hbreak : '\n' ∉ line)
    (hreturn : ∀ c, line.getLast? = some c → (c == '\r') = false) : IsUnfolded (cs ++ more) where
  head := by
    obtain ⟨c, rest, rfl, hc⟩ := h.head
    exact ⟨c, rest ++ more, rfl, hc⟩
  noBreak hmem := by
    rcases List.mem_append.1 hmem with hmem | hmem
    · exact h.noBreak hmem
    · exact hbreak (hline ▸ List.mem_cons_of_mem blank hmem)
  noReturn c hc := by
    have hne : more ≠ [] := by
      rintro rfl
      exact hblank (by simp [hline, Text.isAllBlank, hmark])
    refine hreturn c ?_
    rw [hline, List.getLast?_cons_of_ne_nil hne]
    rwa [List.getLast?_append_of_ne_nil cs hne] at hc

theorem isUnfolded_of_mem_joinFolded {before : List LogicalLine} {lines : List (Nat × List Char)}
    (hbefore : ∀ l ∈ before, IsUnfolded l.chars)
    (hlines : ∀ p ∈ lines,
      '\n' ∉ p.2 ∧ ∀ c, p.2.getLast? = some c → (c == '\r') = false) :
    ∀ l ∈ joinFolded before lines, IsUnfolded l.chars := by
  fun_induction joinFolded before lines with
  | case1 before => exact fun l hl => hbefore l (List.mem_reverse.1 hl)
  | case2 before number line rest hblank ih =>
    exact ih hbefore (List.forall_mem_cons.1 hlines).2
  | case3 number rest more last earlier hblank ih
  | case4 number rest more last earlier hblank ih =>
    -- after a space or a tab the line goes on
    obtain ⟨⟨hbreak, hreturn⟩, hrest⟩ := List.forall_mem_cons.1 hlines
    obtain ⟨hlast, hearlier⟩ := List.forall_mem_cons.1 hbefore
    have hlong := hlast.append rfl (by decide) hblank hbreak hreturn
    exact ih (List.forall_mem_cons.2 ⟨hlong, hearlier⟩) hrest
  | case5 before number line rest hblank _ _ ih =>
    obtain ⟨⟨hbreak, hreturn⟩, hrest⟩ := List.forall_mem_cons.1 hlines
    have hnew := isUnfolded_trimStart hblank hbreak hreturn
    exact ih (List.forall_mem_cons.2 ⟨hnew, hbefore⟩) hrest

theorem isUnfolded_of_mem_split {text : String} {l : LogicalLine} (h : l ∈ split text) :
    IsUnfolded l.chars :=
  isUnfolded_of_mem_joinFolded (fun _ hb => absurd hb List.not_mem_nil)
    (fun _ hp => ⟨noBreak_of_mem_physicalLines hp, noReturn_of_mem_physicalLines hp⟩) l h

theorem start_of_mem_joinFolded {before : List LogicalLine} {lines : List (Nat × List Char)} :
    ∀ l ∈ joinFolded before lines,
      (∃ b ∈ before, b.number = l.number ∧ b.chars <+: l.chars) ∨
        ∃ first, (l.number, first) ∈ lines ∧ ¬Text.isAllBlank first = true ∧
          Text.trimStart first <+: l.chars := by
  fun_induction joinFolded before lines with
  | case1 before =>
    exact fun l hl => Or.inl ⟨l, List.mem_reverse.1 hl, rfl, List.prefix_refl _⟩
  | case2 before number line rest hblank ih =>
    intro l hl
    rcases ih l hl with hold | ⟨first, hfirst, hshown⟩
    · exact Or.inl hold
    · exact Or.inr ⟨first, List.mem_cons_of_mem _ hfirst, hshown⟩
  | case3 number rest more last earlier hblank ih
  | case4 number rest more last earlier hblank ih =>
    intro l hl
    rcases ih l hl with ⟨b, hb, hnumber, hprefix⟩ | ⟨first, hfirst, hshown⟩
    · rcases List.mem_cons.1 hb with rfl | hb
      · have hlast := (List.prefix_append last.chars more).trans hprefix
        exact Or.inl ⟨last, List.mem_cons_self, hnumber, hlast⟩
      · exact Or.inl ⟨b, List.mem_cons_of_mem last hb, hnumber, hprefix⟩
    · exact Or.inr ⟨first, List.mem_cons_of_mem _ hfirst, hshown⟩
  | case5 before number line rest hblank _ _ ih =>
    intro l hl
    rcases ih l hl with ⟨b, hb, hnumber, hprefix⟩ | ⟨first, hfirst, hshown⟩
    · rcases List.mem_cons.1 hb with rfl | hb
      · exact Or.inr ⟨line, hnumber ▸ List.mem_cons_self, hblank, hprefix⟩
      · exact Or.inl ⟨b, hb, hnumber, hprefix⟩
    · exact Or.inr ⟨first, List.mem_cons_of_mem _ hfirst, hshown⟩

theorem start_of_mem_split {text : String} {l : LogicalLine} (h : l ∈ split text) :
    ∃ first, (l.number, first) ∈ physicalLines text.toList ∧ ¬Text.isAllBlank first = true ∧
      Text.trimStart first <+: l.chars := by
  rcases start_of_mem_joinFolded l h with ⟨b, hb, -⟩ | hstart
  · exact absurd hb List.not_mem_nil
  · exact hstart

theorem pairwise_joinFolded {before : List LogicalLine} {lines : List (Nat × List Char)}
    (hbefore : before.Pairwise fun l m => m.number < l.number)
    (hlines : lines.Pairwise fun p q => p.1 < q.1)
    (hcross : ∀ b ∈ before, ∀ p ∈ lines, b.number < p.1) :
    (joinFolded before lines).Pairwise fun l m => l.number < m.number := by
  fun_induction joinFolded before lines with
  | case1 before => exact List.pairwise_reverse.2 hbefore
  | case2 before number line rest hblank ih =>
    exact ih hbefore hlines.of_cons fun b hb => (List.forall_mem_cons.1 (hcross b hb)).2
  | case3 number rest more last earlier hblank ih
  | case4 number rest more last earlier hblank ih =>
    refine ih ?_ hlines.of_cons ?_
    · exact List.pairwise_cons.2 (List.pairwise_cons.1 hbefore)
    · intro b hb
      rcases List.mem_cons.1 hb with rfl | hb
      · exact (List.forall_mem_cons.1 (hcross last List.mem_cons_self)).2
      · exact (List.forall_mem_cons.1 (hcross b (List.mem_cons_of_mem last hb))).2
  | case5 before number line rest hblank _ _ ih =>
    obtain ⟨hlater, hrest⟩ := List.pairwise_cons.1 hlines
    refine ih ?_ hrest ?_
    · exact List.pairwise_cons.2
        ⟨fun b hb => (List.forall_mem_cons.1 (hcross b hb)).1, hbefore⟩
    · intro b hb
      rcases List.mem_cons.1 hb with rfl | hb
      · exact hlater
      · exact (List.forall_mem_cons.1 (hcross b hb)).2

theorem pairwise_split (text : String) :
    (split text).Pairwise fun l m => l.number < m.number :=
  pairwise_joinFolded List.Pairwise.nil (pairwise_physicalLines _)
    fun _ hb => absurd hb List.not_mem_nil

theorem eq_of_number_eq {text : String} {l m : LogicalLine} (hl : l ∈ split text)
    (hm : m ∈ split text) (h : l.number = m.number) : l = m := by
  have hdistinct : ((split text).map number).Nodup :=
    List.pairwise_map.2 ((pairwise_split text).imp fun hlt => Nat.ne_of_lt hlt)
  exact List.inj_on_of_nodup_map hdistinct hl hm h

theorem joinFolded_append (before : List LogicalLine) (lines lines' : List (Nat × List Char)) :
    joinFolded before (lines ++ lines') = joinFolded (joinFolded before lines).reverse lines' := by
  fun_induction joinFolded before lines with
  | case1 before => rw [List.nil_append, List.reverse_reverse]
  | case2 before number line rest hblank ih =>
    rw [← ih, List.cons_append, joinFolded.eq_def]
    exact if_pos hblank
  | case3 number rest more last earlier hblank ih
  | case4 number rest more last earlier hblank ih =>
    rw [← ih, List.cons_append, joinFolded]
    exact if_neg hblank
  | case5 before number line rest hblank hspace htab ih =>
    rw [← ih, List.cons_append, joinFolded, if_neg hblank]
    · exact hspace
    · exact htab

theorem joinFolded_cons_of_blank (before : List LogicalLine) (number : Nat) {line : List Char}
    (h : Text.isAllBlank line = true) (lines : List (Nat × List Char)) :
    joinFolded before ((number, line) :: lines) = joinFolded before lines := by
  rw [joinFolded.eq_def]
  exact if_pos h

theorem joinFolded_cons_of_head (before : List LogicalLine) (number : Nat) {line : List Char}
    (h : ∃ c rest, line = c :: rest ∧ Text.isBlank c = false) (lines : List (Nat × List Char)) :
    joinFolded before ((number, line) :: lines) = joinFolded (⟨number, line⟩ :: before) lines := by
  obtain ⟨c, rest, hline, hc⟩ := h
  have hblank : ¬Text.isAllBlank line = true := by simp [hline, Text.isAllBlank, hc]
  have htrim : Text.trimStart line = line := by
    rw [hline]
    exact List.dropWhile_cons_of_neg (by simp [hc])
  rw [joinFolded, if_neg hblank, htrim]
  · intro more last earlier heq
    have hspace : c = ' ' := (List.cons.inj (hline.symm.trans heq)).1
    exact absurd hc (by rw [hspace]; decide)
  · intro more last earlier heq
    have htab : c = '\t' := (List.cons.inj (hline.symm.trans heq)).1
    exact absurd hc (by rw [htab]; decide)

theorem joinFolded_of_unfolded (before : List LogicalLine) {lines : List (Nat × List Char)}
    (h : ∀ p ∈ lines, IsUnfolded p.2) :
    joinFolded before lines = before.reverse ++ lines.map fun p => ⟨p.1, p.2⟩ := by
  induction lines generalizing before with
  | nil => rw [joinFolded, List.map_nil, List.append_nil]
  | cons p lines ih =>
    obtain ⟨number, line⟩ := p
    obtain ⟨hp, hrest⟩ := List.forall_mem_cons.1 h
    rw [joinFolded_cons_of_head before number hp.head, ih _ hrest, List.reverse_cons,
      List.append_assoc, List.map_cons]
    rfl

theorem isUnfolded_dropEndWhile {line : List Char} (hbreak : '\n' ∉ line)
    (h : ∃ c rest, line = c :: rest ∧ Text.isBlank c = false) :
    IsUnfolded (Text.dropEndWhile (· == '\r') line) where
  head := by
    obtain ⟨c, rest, rfl, hc⟩ := h
    have hreturn : (c == '\r') = false := by
      rw [beq_eq_false_iff_ne]
      rintro rfl
      exact absurd hc (by decide)
    obtain ⟨others, hothers⟩ := Text.dropEndWhile_cons (p := (· == '\r')) hreturn rest
    exact ⟨c, others, hothers, hc⟩
  noBreak hmem := hbreak ((Text.dropEndWhile_isPrefix _ _).subset hmem)
  noReturn c hc := Text.getLast?_dropEndWhile (p := (· == '\r')) hc

/-- Where lines joined by line breaks are broken again; there is no line where none was joined. -/
def brokenLines (lines : List String) : List (List Char) :=
  if lines = [] then [] else ("\n".intercalate lines).toList.splitOn '\n'

theorem split_intercalate_eq (lines : List String) :
    split ("\n".intercalate lines) = joinFolded []
      (numbered 1 ((brokenLines lines).map (Text.dropEndWhile (· == '\r')))) := by
  by_cases h : lines = []
  · rw [h]
    rfl
  · rw [split, physicalLines_eq, brokenLines, if_neg h]

theorem brokenLines_append (lines : List String) {more : List (List Char)}
    (h : ∀ cs ∈ more, '\n' ∉ cs) :
    brokenLines (lines ++ more.map String.ofList) = brokenLines lines ++ more := by
  by_cases hmore : more = []
  · rw [hmore, List.map_nil, List.append_nil, List.append_nil]
  · have hjoined : ("\n".intercalate (more.map String.ofList)).toList.splitOn '\n' = more :=
      Text.splitOn_intercalate rfl h hmore
    have hne : more.map String.ofList ≠ [] := by simpa using hmore
    rw [brokenLines, if_neg (List.append_ne_nil_of_right_ne_nil lines hne)]
    by_cases hlines : lines = []
    · rw [hlines, List.nil_append, hjoined]
      rfl
    · have htext : ("\n".intercalate (lines ++ more.map String.ofList)).toList =
          ("\n".intercalate lines).toList ++
            '\n' :: ("\n".intercalate (more.map String.ofList)).toList := by
        rw [String.toList_intercalate, List.map_append,
          Text.intercalate_append _ (by simpa using hlines) (by simpa using hmore),
          ← String.toList_intercalate, ← String.toList_intercalate, List.append_assoc]
        rfl
      rw [htext, List.splitOn_append_cons_self, hjoined, brokenLines, if_neg hlines]

theorem split_intercalate_append (lines : List String) {more : List (List Char)}
    (h : ∀ cs ∈ more, '\n' ∉ cs ∧ ∃ c rest, cs = c :: rest ∧ Text.isBlank c = false) :
    split ("\n".intercalate (lines ++ more.map String.ofList)) =
      split ("\n".intercalate lines) ++
        (numbered (1 + (brokenLines lines).length)
          (more.map (Text.dropEndWhile (· == '\r')))).map fun p => ⟨p.1, p.2⟩ := by
  have hunfolded : ∀ p ∈ numbered (1 + (brokenLines lines).length)
      (more.map (Text.dropEndWhile (· == '\r'))), IsUnfolded p.2 := by
    intro p hp
    obtain ⟨cs, hcs, hstrip⟩ := List.mem_map.1 (mem_of_mem_numbered hp)
    exact hstrip ▸ isUnfolded_dropEndWhile (h cs hcs).1 (h cs hcs).2
  rw [split_intercalate_eq, brokenLines_append lines fun cs hcs => (h cs hcs).1, List.map_append,
    numbered_append, List.length_map, joinFolded_append, joinFolded_of_unfolded _ hunfolded,
    List.reverse_reverse, ← split_intercalate_eq]

theorem split_intercalate {lines : List (List Char)} (h : ∀ cs ∈ lines, IsUnfolded cs) :
    split ("\n".intercalate (lines.map String.ofList)) =
      (lines.zipIdx 1).map fun p => ⟨p.2, p.1⟩ := by
  have hstrip : lines.map (Text.dropEndWhile (· == '\r')) = lines :=
    (List.map_congr_left fun cs hcs => Text.dropEndWhile_of_getLast? (h cs hcs).noReturn).trans
      (List.map_id _)
  have hsplit := split_intercalate_append [] fun cs hcs => ⟨(h cs hcs).noBreak, (h cs hcs).head⟩
  rw [hstrip, List.nil_append] at hsplit
  rw [hsplit, numbered, List.map_map]
  rfl

theorem chars_split_intercalate {lines : List (List Char)} (h : ∀ cs ∈ lines, IsUnfolded cs) :
    (split ("\n".intercalate (lines.map String.ofList))).map chars = lines := by
  rw [split_intercalate h, List.map_map]
  exact List.zipIdx_map_fst 1 lines

end LogicalLine

end Almanac
