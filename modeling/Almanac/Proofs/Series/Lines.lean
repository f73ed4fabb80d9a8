import Almanac.Proofs.Line.Unfold
import Almanac.Proofs.Series.Reading

/-! Reading many lines. Whether reading is strict or not, a series holds what the accepted lines
add, each read on its own: `addLines_lenient`, `addLines_strict` and `addLines_refused`. -/

namespace Almanac

namespace LogicalLine

def read (f : Frame) (l : LogicalLine) : Except LineFailure Contribution :=
  (Contribution.ofLine f {} l.text l.number).1

/-- What an accepted line adds. -/
def contribution? (f : Frame) (l : LogicalLine) : Option Contribution :=
  (l.read f).toOption

def refusal? (f : Frame) (l : LogicalLine) : Option LineError :=
  match l.read f with
  | .error (.refused e) => some e
  | _ => none

variable {f : Frame} {l m : LogicalLine}

theorem contribution?_eq_some_iff {c : Contribution} :
    l.contribution? f = some c ↔ l.read f = .ok c := by
  unfold contribution?
  cases l.read f with
  | error e => simp [Except.toOption]
  | ok c => simp [Except.toOption]

theorem refusal?_eq_some_iff {e : LineError} :
    l.refusal? f = some e ↔ l.read f = .error (.refused e) := by
  unfold refusal?
  split
  · next e' he => simp [he]
  · next hno =>
    constructor
    · intro h
      simp at h
    · intro h
      exact absurd h (hno e)

theorem line_of_refusal? {e : LineError} (h : l.refusal? f = some e) : e.line = l.number := by
  have hself := Contribution.ofLine_renumber f l.number l.number {} l.text
  rw [refusal?_eq_some_iff, read] at h
  rw [h] at hself
  have he : e = e.onLine l.number := LineFailure.refused.inj (Except.error.inj hself)
  rw [he]
  rfl

theorem contribution?_congr (h : l.chars = m.chars) : l.contribution? f = m.contribution? f := by
  have htext : l.text = m.text := by rw [text, text, h]
  unfold contribution? read
  rw [htext, Contribution.ofLine_renumber f l.number m.number]
  cases (Contribution.ofLine f {} m.text l.number).1 with
  | error e => rfl
  | ok c => rfl

end LogicalLine

namespace Series

variable {f : Frame} {resolver : Resolver} {compiled c : Compiled} {lines : List LogicalLine}

def contributions (f : Frame) (lines : List LogicalLine) : List Contribution :=
  lines.filterMap (LogicalLine.contribution? f)

def refusals (f : Frame) (lines : List LogicalLine) : List LineError :=
  lines.filterMap (LogicalLine.refusal? f)

/-- No line breaks reading off. -/
def Readable (f : Frame) (lines : List LogicalLine) : Prop :=
  ∀ l ∈ lines, l.read f ≠ .error .brokenOff

instance : Decidable (Readable f lines) :=
  inferInstanceAs (Decidable (∀ l ∈ lines, l.read f ≠ .error .brokenOff))

theorem readable_cons {l : LogicalLine} :
    Readable f (l :: lines) ↔ l.read f ≠ .error .brokenOff ∧ Readable f lines :=
  List.forall_mem_cons

theorem addLines_cons (h : resolver.Faithful) (strict : Bool) (compiled : Compiled)
    (l : LogicalLine) (lines : List LogicalLine) :
    ∃ after : Resolver, after.Faithful ∧
      addLines f strict resolver compiled (l :: lines) =
        match l.read f with
        | .ok contribution =>
          addLines f strict after
            { compiled with series := compiled.series.add contribution } lines
        | .error .brokenOff => .error .brokenOff
        | .error (.refused e) =>
          if strict then .error (.line (e.withContent l.text))
          else
            addLines f strict after { compiled with skipped := compiled.skipped ++ [e] } lines := by
  obtain ⟨hsame, hafter⟩ :=
    Contribution.ofLine_faithful f l.number h Resolver.faithful_empty l.text
  rcases hr : Contribution.ofLine f resolver l.text l.number with ⟨answer, after⟩
  rw [hr] at hsame hafter
  have hread : l.read f = answer := hsame.symm
  refine ⟨after, hafter, ?_⟩
  rw [addLines, hr, hread]
  rcases answer with (e | -) | contribution <;> rfl

theorem addLines_lenient (h : resolver.Faithful) :
    addLines f false resolver compiled lines = .ok c ↔
      Readable f lines ∧ c = ⟨(contributions f lines).foldl add compiled.series,
        compiled.skipped ++ refusals f lines⟩ := by
  induction lines generalizing resolver compiled with
  | nil => simp [addLines, Readable, contributions, refusals, eq_comm]
  | cons l lines ih =>
    obtain ⟨after, hafter, hstep⟩ := addLines_cons h false compiled l lines
    rw [hstep, readable_cons, contributions, refusals]
    cases hl : l.read f with
    | ok contribution =>
      have hgiven := LogicalLine.contribution?_eq_some_iff.2 hl
      have hnone : l.refusal? f = none := by rw [LogicalLine.refusal?, hl]
      rw [List.filterMap_cons_some hgiven, List.filterMap_cons_none hnone]
      simp only [ih hafter, List.foldl_cons, contributions, refusals, ne_eq, reduceCtorEq,
        not_false_eq_true, true_and]
    | error failure =>
      cases failure with
      | refused e =>
        have hgiven := LogicalLine.refusal?_eq_some_iff.2 hl
        have hnone : l.contribution? f = none := by rw [LogicalLine.contribution?, hl]; rfl
        rw [List.filterMap_cons_none hnone, List.filterMap_cons_some hgiven]
        simp only [Bool.false_eq_true, if_false, ih hafter, contributions, refusals, ne_eq,
          Except.error.injEq, reduceCtorEq, not_false_eq_true, true_and, List.append_assoc,
          List.singleton_append]
      | brokenOff => simp

theorem addLines_of_not_readable (h : resolver.Faithful) (compiled : Compiled)
    (hlines : ¬Readable f lines) :
    addLines f false resolver compiled lines = .error .brokenOff := by
  induction lines generalizing resolver compiled with
  | nil => exact absurd (fun l hl => absurd hl List.not_mem_nil) hlines
  | cons l lines ih =>
    obtain ⟨after, hafter, hstep⟩ := addLines_cons h false compiled l lines
    rw [readable_cons] at hlines
    rw [hstep]
    rcases hl : l.read f with (e | -) | contribution
    · exact ih hafter _ fun hrest => hlines ⟨by simp [hl], hrest⟩
    · rfl
    · exact ih hafter _ fun hrest => hlines ⟨by simp [hl], hrest⟩

theorem addLines_strict (h : resolver.Faithful) :
    addLines f true resolver compiled lines = .ok c ↔
      (Readable f lines ∧ refusals f lines = []) ∧
        c = ⟨(contributions f lines).foldl add compiled.series, compiled.skipped⟩ := by
  induction lines generalizing resolver compiled with
  | nil => simp [addLines, Readable, contributions, refusals, eq_comm]
  | cons l lines ih =>
    obtain ⟨after, hafter, hstep⟩ := addLines_cons h true compiled l lines
    rw [hstep, readable_cons, contributions, refusals]
    cases hl : l.read f with
    | ok contribution =>
      have hgiven := LogicalLine.contribution?_eq_some_iff.2 hl
      have hnone : l.refusal? f = none := by rw [LogicalLine.refusal?, hl]
      rw [List.filterMap_cons_some hgiven, List.filterMap_cons_none hnone]
      simp only [ih hafter, List.foldl_cons, contributions, refusals, ne_eq, reduceCtorEq,
        not_false_eq_true, true_and]
    | error failure =>
      cases failure with
      | refused e =>
        rw [List.filterMap_cons_some (LogicalLine.refusal?_eq_some_iff.2 hl)]
        simp
      | brokenOff => simp

theorem addLines_refused (h : resolver.Faithful) (compiled : Compiled) (hread : Readable f lines)
    {e : LineError} {others : List LineError} (he : refusals f lines = e :: others) :
    ∃ l ∈ lines, l.refusal? f = some e ∧
      addLines f true resolver compiled lines = .error (.line (e.withContent l.text)) := by
  induction lines generalizing resolver compiled with
  | nil => simp [refusals] at he
  | cons l lines ih =>
    obtain ⟨after, hafter, hstep⟩ := addLines_cons h true compiled l lines
    obtain ⟨hl, hrest⟩ := readable_cons.1 hread
    cases hr : l.refusal? f with
    | some e' =>
      rw [refusals, List.filterMap_cons_some hr] at he
      obtain rfl : e' = e := (List.cons.inj he).1
      refine ⟨l, List.mem_cons_self, hr, ?_⟩
      rw [hstep, LogicalLine.refusal?_eq_some_iff.1 hr]
      rfl
    | none =>
      rw [refusals, List.filterMap_cons_none hr] at he
      rcases hok : l.read f with (e' | -) | contribution
      · exact absurd hr (by simp [LogicalLine.refusal?, hok])
      · exact absurd hok hl
      · obtain ⟨m, hm, hme, hfails⟩ := ih hafter _ hrest he
        refine ⟨m, List.mem_cons_of_mem l hm, hme, ?_⟩
        rw [hstep, hok]
        exact hfails

theorem exists_frame_of_compile {data : String} {start : Moment} {governing : Zone} {strict : Bool}
    (h : compile data start governing strict = .ok c) :
    ∃ f, Frame.ofStart start governing = .ok f := by
  cases hframe : Frame.ofStart start governing with
  | error e => simp [compile, hframe] at h
  | ok f => exact ⟨f, rfl⟩

theorem eq_of_compile {data : String} {start : Moment} {governing : Zone} {strict : Bool}
    (hframe : Frame.ofStart start governing = .ok f)
    (h : compile data start governing strict = .ok c) :
    Readable f (LogicalLine.split data) ∧
      c = ⟨(contributions f (LogicalLine.split data)).foldl add (ofFrame f),
        refusals f (LogicalLine.split data)⟩ := by
  rw [compile, hframe] at h
  cases strict with
  | false => exact (addLines_lenient Resolver.faithful_empty).1 h
  | true =>
    obtain ⟨⟨hread, hnone⟩, hc⟩ := (addLines_strict Resolver.faithful_empty).1 h
    exact ⟨hread, by rw [hc, hnone]⟩

theorem series_of_compile {data : String} {start : Moment} {governing : Zone} {strict : Bool}
    (hframe : Frame.ofStart start governing = .ok f)
    (h : compile data start governing strict = .ok c) :
    c.series = (contributions f (LogicalLine.split data)).foldl add (ofFrame f) := by
  rw [(eq_of_compile hframe h).2]

end Series

end Almanac
