import Mathlib.Data.List.Permutation
import RecordingName.Proofs.Redaction.Guarding

/-!
# Sources that are redacted whole

Longer sources are covered before shorter ones, so that a source which is a message of its own
is covered whole and shows its placeholder alone, unless a placeholder stands in it: placeholders
are guarded before any source is covered, and cut the source in pieces.
`redact_eq_placeholder_iff` says that nothing else can keep a source from being redacted whole.
-/

namespace RecordingName

namespace Span

variable {spans : List Span} {source earlier shown : Text}

/-- What is covered stays covered. -/
theorem covered_mem_coverAll (placeholder : Text) (member : .covered earlier shown ∈ spans) :
    .covered earlier shown ∈ coverAll source placeholder spans :=
  List.mem_flatMap.2 ⟨_, member, List.mem_singleton_self _⟩

/-- What is covered stays covered. -/
theorem covered_mem_foldl (rules : List (Text × Text)) (member : .covered earlier shown ∈ spans) :
    .covered earlier shown ∈
      rules.foldl (fun spans rule => coverAll rule.1 rule.2 spans) spans := by
  induction rules generalizing spans with
  | nil => exact member
  | cons rule others ih => exact ih (covered_mem_coverAll rule.2 member)

/-- A message that is a source is covered whole by it. -/
theorem coverAll_self (nonempty : source ≠ []) (placeholder : Text) :
    coverAll source placeholder [.clear source] =
      [.clear [], .covered source placeholder, .clear []] := by
  have pieces := Text.cut_append nonempty []
  rw [List.append_nil] at pieces
  rw [coverAll, List.flatMap_singleton, cover, pieces]
  rfl

/-- One covered span, if it is settled, has been one covered span before. -/
theorem eq_of_settled {first last : Text} (settled_eq : spans.map settled =
    [.clear first, .covered shown shown, .clear last]) :
    ∃ source, spans = [.clear first, .covered source shown, .clear last] := by
  have three := congrArg List.length settled_eq
  rw [List.length_map] at three
  obtain ⟨front, middle, back, rfl⟩ := List.length_eq_three.1 three
  simp only [List.map_cons, List.map_nil, List.cons.injEq, and_true] at settled_eq
  obtain ⟨front_eq, middle_eq, back_eq⟩ := settled_eq
  cases front <;> cases front_eq
  cases middle <;> cases middle_eq
  cases back <;> cases back_eq
  exact ⟨_, rfl⟩

end Span

namespace Redactor

variable {redactor : Redactor} {source placeholder : Text}

/-- What is sorted comes longest first. -/
theorem pairwise_longestFirst {α : Type} (key : α → Text) (items : List α) :
    (longestFirst key items).Pairwise fun first second =>
      (key second).length ≤ (key first).length := by
  have sorted := @List.pairwise_mergeSort α
    (fun first second => decide ((key second).length ≤ (key first).length))
    (fun first second third => by
      simp only [decide_eq_true_eq]
      exact fun before behind => Nat.le_trans behind before)
    (fun first second => by
      simp only [Bool.or_eq_true, decide_eq_true_eq]
      exact Nat.le_total _ _) items
  exact sorted.imp fun longer => of_decide_eq_true longer

/-- When the turn of a source comes, no source before it has been found in it. -/
theorem exists_split_longestFirst (registered : redactor.register.get? source = some placeholder) :
    ∃ before behind, longestFirst (·.1) redactor.register.entries =
        before ++ (source, placeholder) :: behind ∧ ∀ rule ∈ before, ¬ rule.1 <:+: source := by
  have sorted := List.mergeSort_perm redactor.register.entries
    fun first second => (second.1.length ≤ first.1.length : Bool)
  have member : (source, placeholder) ∈ longestFirst (·.1) redactor.register.entries :=
    sorted.mem_iff.2 ((Register.mem_entries_iff ..).2 registered)
  obtain ⟨before, behind, shape⟩ := List.append_of_mem member
  have lengths := pairwise_longestFirst (·.1) redactor.register.entries
  have distinct : ((longestFirst (·.1) redactor.register.entries).map (·.1)).Nodup :=
    (sorted.map _).nodup_iff.2 redactor.register.keys_nodup
  rw [shape] at lengths distinct
  refine ⟨before, behind, shape, fun rule early inside => ?_⟩
  have longer := (List.pairwise_append.1 lengths).2.2 rule early _ (List.mem_cons_self ..)
  rw [List.map_append, List.map_cons, List.nodup_append] at distinct
  exact distinct.2.2 rule.1 (List.mem_map_of_mem early) source (List.mem_cons_self ..)
    (inside.eq_of_length_le longer)

/-- A source without a placeholder in it is not cut by guarding. -/
theorem guarded_of_free (free : ∀ shown ∈ redactor.placeholders, ¬ shown <:+: source) :
    redactor.guarded source = [.clear source] := by
  refine Span.foldl_coverAll_of_absent fun rule member text clear => ?_
  obtain ⟨shown, known, rfl⟩ := List.mem_map.1 member
  cases List.mem_singleton.1 clear
  exact free shown known

/-- A message with a placeholder in it is cut by guarding. -/
theorem exists_covered_of_infix {message shown : Text} (known : shown ∈ redactor.placeholders)
    (inside : shown <:+: message) :
    ∃ first ∈ redactor.placeholders, .covered first first ∈ redactor.guarded message := by
  have guarded := redactor.guarded_guarded message
  have meant := redactor.flatMap_content_guarded message
  generalize redactor.guarded message = spans at guarded meant
  cases guarded with
  | last text free =>
      have whole : text = message := by simpa [Span.content] using meant
      exact absurd (whole ▸ inside) (free shown known)
  | next text first _ first_known _ =>
      exact ⟨first, first_known, List.mem_cons_of_mem _ (List.mem_cons_self ..)⟩

/-- A source without a placeholder in it is covered whole. -/
theorem spans_of_free (registered : redactor.register.get? source = some placeholder)
    (free : ∀ shown ∈ redactor.placeholders, ¬ shown <:+: source) :
    redactor.spans source = [.clear [], .covered source placeholder, .clear []] := by
  obtain ⟨before, behind, shape, others⟩ := exists_split_longestFirst registered
  have nonempty : ∀ rule ∈ longestFirst (·.1) redactor.register.entries, rule.1 ≠ [] :=
    fun rule member => redactor.rules_nonempty rule (List.mem_append_right _ member)
  rw [shape] at nonempty
  have untouched : before.foldl (fun spans rule => Span.coverAll rule.1 rule.2 spans)
      [.clear source] = [.clear source] := by
    refine Span.foldl_coverAll_of_absent fun rule early text clear => ?_
    cases List.mem_singleton.1 clear
    exact others rule early
  have covered := Span.coverAll_self (nonempty _ (List.mem_append_right _ (List.mem_cons_self ..)))
    placeholder
  rw [spans_eq_foldl_guarded, guarded_of_free free, shape, List.foldl_append, List.foldl_cons,
    untouched, covered]
  refine Span.foldl_coverAll_of_absent fun rule late text clear inside => ?_
  have nothing : text = [] := by simpa using clear
  rw [nothing, List.infix_nil] at inside
  exact nonempty rule (List.mem_append_right _ (List.mem_cons_of_mem _ late)) inside

/-- A source without a placeholder in it is redacted whole. -/
theorem redact_of_free (registered : redactor.register.get? source = some placeholder)
    (free : ∀ shown ∈ redactor.placeholders, ¬ shown <:+: source) :
    redactor.redact source = placeholder := by
  rw [redact, spans_of_free registered free]
  simp [Span.shown]

/-- A message that is redacted to one placeholder has been covered whole, as a placeholder is put
together in one way only. -/
theorem ShowsBrackets.spans_of_redact (bracketed : redactor.ShowsBrackets) {message : Text}
    (known : placeholder ∈ redactor.placeholders)
    (whole : redactor.redact message = placeholder) :
    redactor.spans message = [.clear [], .covered message placeholder, .clear []] := by
  have nothing : ∀ shown ∈ redactor.placeholders, ¬ shown <:+: [] := by
    intro shown member inside
    exact (bracketed.bracketed_of_mem shown member).ne_nil (List.infix_nil.1 inside)
  have alone : Guarded redactor.placeholders
      [.clear [], .covered placeholder placeholder, .clear []] :=
    .next [] placeholder nothing known (.last [] nothing)
  have settled := (bracketed.guarded_settled_spans message).eq_of_content
    bracketed.bracketed_of_mem alone (by
      rw [Span.flatMap_content_settled, ← redact, whole]
      simp [Span.content])
  obtain ⟨source, shape⟩ := Span.eq_of_settled settled
  have meant := redactor.flatMap_content_spans message
  rw [shape] at meant ⊢
  have same : source = message := by simpa [Span.content] using meant
  rw [same]

/-- If a source that is no placeholder is redacted whole, there is no placeholder in it: that would
still cover itself. -/
theorem ShowsBrackets.free_of_redact (bracketed : redactor.ShowsBrackets)
    (registered : redactor.register.get? source = some placeholder)
    (foreign : source ∉ redactor.placeholders) (whole : redactor.redact source = placeholder) :
    ∀ shown ∈ redactor.placeholders, ¬ shown <:+: source := by
  intro shown member inside
  have known := (bracketed.mem_placeholders_iff placeholder).2 ⟨source, registered⟩
  obtain ⟨first, first_known, guarded⟩ := exists_covered_of_infix member inside
  have covered := Span.covered_mem_foldl (longestFirst (·.1) redactor.register.entries) guarded
  rw [← spans_eq_foldl_guarded, bracketed.spans_of_redact known whole] at covered
  have same : first = source ∧ first = placeholder := by simpa using covered
  exact foreign (same.1 ▸ first_known)

/-- With bracketed placeholders, a registered source that is not itself a placeholder is redacted
to the placeholder that it has been given last exactly if no registered placeholder stands in
it, whatever other sources are registered. -/
theorem redact_eq_placeholder_iff {calls : List (Text × Text)} (order : SetOrder)
    (bracketed : ∀ call ∈ calls, Bracketed call.2)
    (registered : lastPlaceholder? calls source = some placeholder)
    (foreign : ∀ other, lastPlaceholder? calls other ≠ some source) :
    (ofCalls order calls).redact source = placeholder ↔
      ∀ other shown, lastPlaceholder? calls other = some shown → ¬ shown <:+: source := by
  have brackets := showsBrackets_ofCalls bracketed order
  have known (shown : Text) : shown ∈ (ofCalls order calls).placeholders ↔
      ∃ other, lastPlaceholder? calls other = some shown := by
    simp only [brackets.mem_placeholders_iff, get?_ofCalls]
  rw [← get?_ofCalls order] at registered
  constructor
  · intro whole other shown last
    refine brackets.free_of_redact registered ?_ whole shown ((known shown).2 ⟨other, last⟩)
    rw [known]
    rintro ⟨first, last⟩
    exact foreign first last
  · intro free
    refine redact_of_free registered fun shown member => ?_
    obtain ⟨other, last⟩ := (known shown).1 member
    exact free other shown last

/-- What no call has as its placeholder is none. -/
theorem lastPlaceholder?_ne {calls : List (Text × Text)} {text : Text}
    (absent : text ∉ calls.map (·.2)) (other : Text) : lastPlaceholder? calls other ≠ some text :=
  fun last => absent (List.mem_map.2 ⟨_, mem_of_lastPlaceholder? last, rfl⟩)

/-- A number, and names that hold it or a part of it. -/
def overlappingCalls : List (Text × Text) :=
  [("5550100".text, "<phone number>".text), ("Ann 5550100".text, "<caller name>".text),
    ("nn 555010".text, "<contact name>".text), ("Ann 5550100 <".text, "<name>".text)]

/-- The name is redacted whole among longer, shorter and overlapping sources. -/
theorem redact_eq_placeholder_iff_overlapping : (∀ call ∈ overlappingCalls, Bracketed call.2) ∧
    lastPlaceholder? overlappingCalls "Ann 5550100".text = some "<caller name>".text ∧
    (∀ other, lastPlaceholder? overlappingCalls other ≠ some "Ann 5550100".text) ∧
    (ofCalls .byOccurrence overlappingCalls).redact "Ann 5550100".text = "<caller name>".text := by
  have bracketed : ∀ call ∈ overlappingCalls, Bracketed call.2 := by decide
  have registered : lastPlaceholder? overlappingCalls "Ann 5550100".text =
      some "<caller name>".text := by decide
  have foreign := @lastPlaceholder?_ne overlappingCalls "Ann 5550100".text (by decide)
  have open_free : .scalar '<' ∉ "Ann 5550100".text := by decide
  refine ⟨bracketed, registered, foreign,
    (redact_eq_placeholder_iff .byOccurrence bracketed registered foreign).2 ?_⟩
  intro other shown last inside
  have opens := (bracketed (other, shown) (mem_of_lastPlaceholder? last)).opens
  exact open_free (inside.subset opens)

/-- A number, and a name with the placeholder of numbers in it. -/
def guardedCalls : List (Text × Text) :=
  [("5550100".text, "<phone number>".text),
    ("Eve <phone number>".text, "<caller name>".text)]

/-- The name is not redacted at all: it is cut at the placeholder, and neither piece is a source. -/
theorem guarded_source_shows : (∀ call ∈ guardedCalls, Bracketed call.2) ∧
    lastPlaceholder? guardedCalls "Eve <phone number>".text = some "<caller name>".text ∧
    (∀ other, lastPlaceholder? guardedCalls other ≠ some "Eve <phone number>".text) ∧
    (ofCalls .byOccurrence guardedCalls).redact "Eve <phone number>".text =
      "Eve <phone number>".text ∧
    "Eve <phone number>".text ≠ "<caller name>".text := by
  refine ⟨by decide, by decide, lastPlaceholder?_ne (by decide), ?_, by decide⟩
  cbv

end Redactor
end RecordingName
