import Issuebook.Proofs.Fault
import Issuebook.Template.Rendering
import Mathlib.Data.List.Basic

/-!
# Segments of a template

The normal form of the segments of a template: no two literals are neighbours, no literal is empty,
and the path of every slot is made of names. Rendering a template, which reads it on its own, is
substitution in these segments: `render_substitutes`.
-/

namespace Issuebook.Segment

variable {path text : Text} {segments : List Segment}

/-- Whether a segment is a slot. -/
def isSlot : Segment → Bool
  | .slot _ => true
  | .literal _ => false

/-- Segments of which no two literals are neighbours. -/
def IsNormal (segments : List Segment) : Prop :=
  segments.IsChain fun one other => one.isSlot ∨ other.isSlot

/-- Text in front keeps a template normal. -/
theorem isNormal_consText (normal : IsNormal segments) (text : Text) :
    IsNormal (consText text segments) := by
  cases segments with
  | nil => exact .singleton _
  | cons first segments =>
      cases first with
      | slot path => exact .cons_cons (.inr rfl) normal
      | literal next =>
          cases segments with
          | nil => exact .singleton _
          | cons second segments =>
              obtain ⟨beside, later⟩ := List.isChain_cons_cons.mp normal
              exact .cons_cons beside later

/-- So does a slot in front. -/
theorem isNormal_cons_slot (normal : IsNormal segments) (path : Text) :
    IsNormal (.slot path :: segments) := by
  cases segments with
  | nil => exact .singleton _
  | cons first segments => exact .cons_cons (.inl rfl) normal

/-- Text in front adds no slot. -/
theorem mem_consText (present : .slot path ∈ consText text segments) : .slot path ∈ segments := by
  unfold consText at present
  split at present
  · simpa using present
  · simpa using present

/-- The segments of a template are in normal form. -/
theorem isNormal_ofTemplate (template : Text) : IsNormal (ofTemplate template) := by
  unfold ofTemplate
  fun_induction scan 0 template with
  | case1 => exact .nil
  | case2 skip char rest inductionHypothesis => exact inductionHypothesis
  | case3 char rest inner escaped inductionHypothesis =>
      exact isNormal_consText inductionHypothesis _
  | case4 char rest plain path slot inductionHypothesis =>
      exact isNormal_cons_slot inductionHypothesis path
  | case5 char rest plain noSlot inductionHypothesis =>
      exact isNormal_consText inductionHypothesis _

/-- It adds no empty literal, if it is not empty. -/
theorem literal_ne_nil_of_consText (present : text ≠ [])
    (solid : ∀ literal, .literal literal ∈ segments → literal ≠ []) :
    ∀ literal, .literal literal ∈ consText text segments → literal ≠ [] := by
  intro literal listed
  unfold consText at listed
  split at listed
  · rename_i next segments
    rcases List.mem_cons.mp listed with same | later
    · obtain rfl := Segment.literal.inj same
      exact List.append_ne_nil_of_left_ne_nil present next
    · exact solid literal (List.mem_cons_of_mem _ later)
  · rcases List.mem_cons.mp listed with same | later
    · obtain rfl := Segment.literal.inj same
      exact present
    · exact solid literal later

/-- No literal of a template is empty. -/
theorem literal_ne_nil (template : Text) :
    ∀ literal, .literal literal ∈ ofTemplate template → literal ≠ [] := by
  unfold ofTemplate
  fun_induction scan 0 template with
  | case1 => exact fun _ impossible => nomatch impossible
  | case2 skip char rest inductionHypothesis => exact inductionHypothesis
  | case3 char rest inner escaped inductionHypothesis =>
      exact literal_ne_nil_of_consText (List.cons_ne_nil _ _) inductionHypothesis
  | case4 char rest plain path slot inductionHypothesis =>
      intro literal listed
      exact inductionHypothesis literal ((List.mem_cons.mp listed).resolve_left nofun)
  | case5 char rest plain noSlot inductionHypothesis =>
      exact literal_ne_nil_of_consText (List.cons_ne_nil _ _) inductionHypothesis

/-- What is between the braces of a slot is a path. -/
theorem isPath_of_slot? (found : slot? text = some path) : isPath path := by
  unfold slot? at found
  split at found
  · simp only [Option.ite_none_right_eq_some, Bool.and_eq_true, Option.some.injEq] at found
    exact found.2 ▸ found.1.2
  · cases found

/-- Every slot of a template has a path. -/
theorem isPath_of_mem_ofTemplate {template : Text} :
    .slot path ∈ ofTemplate template → isPath path := by
  unfold ofTemplate
  fun_induction scan 0 template with
  | case1 => exact fun present => nomatch present
  | case2 skip char rest inductionHypothesis => exact inductionHypothesis
  | case3 char rest inner escaped inductionHypothesis =>
      exact fun present => inductionHypothesis (mem_consText present)
  | case4 char rest plain found slot inductionHypothesis =>
      intro present
      rcases List.mem_cons.mp present with same | later
      · cases same
        exact isPath_of_slot? slot
      · exact inductionHypothesis later
  | case5 char rest plain noSlot inductionHypothesis =>
      exact fun present => inductionHypothesis (mem_consText present)

/-- The paths of the slots, in order. -/
def paths (segments : List Segment) : List Text :=
  segments.filterMap fun
    | .slot path => some path
    | .literal _ => none

/-- No segment has no path. -/
@[simp] theorem paths_nil : paths [] = [] :=
  rfl

/-- A slot in front adds its path. -/
@[simp] theorem paths_cons_slot (path : Text) (segments : List Segment) :
    paths (.slot path :: segments) = path :: paths segments :=
  rfl

/-- A literal in front adds none. -/
@[simp] theorem paths_cons_literal (text : Text) (segments : List Segment) :
    paths (.literal text :: segments) = paths segments :=
  rfl

/-- The paths of two parts are those of the one and then those of the other. -/
theorem paths_append (front back : List Segment) :
    paths (front ++ back) = paths front ++ paths back :=
  List.filterMap_append

/-- A path is that of a slot. -/
theorem mem_paths : path ∈ paths segments ↔ .slot path ∈ segments := by
  induction segments with
  | nil => simp
  | cons first segments inductionHypothesis =>
      cases first <;> simp [inductionHypothesis]

/-- The text of segments whose slots show `texts`. -/
def fill (texts : Text → Text) (segments : List Segment) : Text :=
  segments.flatMap fun
    | .literal text => text
    | .slot path => texts path

/-- Filling nothing gives nothing. -/
@[simp] theorem fill_nil (texts : Text → Text) : fill texts [] = [] :=
  rfl

/-- A slot is filled by the text of its path. -/
@[simp] theorem fill_cons_slot (texts : Text → Text) (path : Text) (segments : List Segment) :
    fill texts (.slot path :: segments) = texts path ++ fill texts segments :=
  rfl

/-- A literal is filled by itself. -/
@[simp] theorem fill_cons_literal (texts : Text → Text) (text : Text) (segments : List Segment) :
    fill texts (.literal text :: segments) = text ++ fill texts segments :=
  rfl

/-- Two parts are filled one behind the other. -/
theorem fill_append (texts : Text → Text) (front back : List Segment) :
    fill texts (front ++ back) = fill texts front ++ fill texts back :=
  List.flatMap_append

/-- The text of segments whose slots show texts in order. -/
def fillEach : List Text → List Segment → Text
  | texts, .literal text :: segments => text ++ fillEach texts segments
  | text :: texts, .slot _ :: segments => text ++ fillEach texts segments
  | _, _ => []

/-- The texts of the segments in a context that shows `texts` in the slots. -/
theorem mapM_render {context : Value} {texts : Text → Text}
    (shown : ∀ path ∈ paths segments, (context.at? path).map Value.slotText = .ok (texts path)) :
    (segments.mapM (render context)).map List.flatten = .ok (fill texts segments) := by
  induction segments with
  | nil => rfl
  | cons first segments inductionHypothesis =>
      have later := inductionHypothesis fun path present => shown path (by
        cases first <;> simp [present])
      obtain ⟨rest, made, flat⟩ := Fault.map_eq_ok.mp later
      have text : ∃ own, render context first = .ok own ∧
          fill texts (first :: segments) = own ++ fill texts segments := by
        cases first with
        | literal text => exact ⟨text, rfl, rfl⟩
        | slot path => exact ⟨texts path, shown path (by simp), rfl⟩
      obtain ⟨own, rendered, filled⟩ := text
      rw [List.mapM_cons, rendered, made, filled, ← flat]
      rfl

/-- The text of segments one after the other, in a context. -/
def renderAll (context : Value) (segments : List Segment) : Except Fault Text :=
  (segments.mapM (render context)).map List.flatten

/-- Segments are rendered one behind the other, as long as none fails. -/
theorem renderAll_cons (context : Value) (first : Segment) (segments : List Segment) :
    renderAll context (first :: segments) = (do
      let own ← render context first
      let later ← renderAll context segments
      pure (own ++ later)) := by
  rw [renderAll, renderAll, List.mapM_cons]
  cases render context first with
  | error fault => rfl
  | ok own => cases segments.mapM (render context) <;> rfl

/-- So are two parts. -/
theorem renderAll_append (context : Value) (front back : List Segment) :
    renderAll context (front ++ back) = (do
      let before ← renderAll context front
      let after ← renderAll context back
      pure (before ++ after)) := by
  induction front with
  | nil =>
      rw [List.nil_append]
      cases renderAll context back <;> rfl
  | cons first front inductionHypothesis =>
      rw [List.cons_append, renderAll_cons, inductionHypothesis, renderAll_cons]
      cases render context first with
      | error fault => rfl
      | ok own =>
          cases renderAll context front with
          | error fault => rfl
          | ok before =>
              cases renderAll context back with
              | error fault => rfl
              | ok after => exact congrArg Except.ok (List.append_assoc own before after).symm

/-- The text of the value of a slot stands as it is between the texts of the other segments. -/
theorem renderAll_slot {context : Value} {front back : List Segment}
    (made : renderAll context (front ++ .slot path :: back) = .ok text) :
    ∃ before value after, renderAll context front = .ok before ∧ context.at? path = .ok value ∧
      renderAll context back = .ok after ∧ text = before ++ (value.slotText ++ after) := by
  rw [renderAll_append] at made
  obtain ⟨before, first, made⟩ := Fault.bind_eq_ok.mp made
  obtain ⟨rest, made, whole⟩ := Fault.bind_eq_ok.mp made
  rw [renderAll_cons] at made
  obtain ⟨own, shown, made⟩ := Fault.bind_eq_ok.mp made
  obtain ⟨value, found, rfl⟩ := Fault.map_eq_ok.mp shown
  obtain ⟨after, last, made⟩ := Fault.bind_eq_ok.mp made
  obtain rfl := Except.ok.inj made
  exact ⟨before, value, after, first, found, last, (Except.ok.inj whole).symm⟩

/-- Text in front of segments is rendered as it stands. -/
theorem renderAll_consText (context : Value) (text : Text) (segments : List Segment) :
    renderAll context (consText text segments) =
      (renderAll context segments).map (text ++ ·) := by
  unfold consText
  split
  · rename_i next segments
    rw [renderAll_cons, renderAll_cons]
    cases renderAll context segments with
    | error fault => rfl
    | ok later => exact congrArg Except.ok (List.append_assoc text next later)
  · rw [renderAll_cons]
    cases renderAll context segments <;> rfl

end Issuebook.Segment

namespace Issuebook.Template

/-- The pass that renders a template and the pass that finds its segments read the template
alike. -/
theorem renderFrom_eq_renderAll (context : Value) (skip : Nat) (template : Text) :
    renderFrom context skip template =
      Segment.renderAll context (Segment.scan skip template) := by
  fun_induction Segment.scan skip template with
  | case1 => rfl
  | case2 skip char rest inductionHypothesis => exact inductionHypothesis
  | case3 char rest inner escaped inductionHypothesis =>
      rw [renderFrom, escaped, Segment.renderAll_consText, ← inductionHypothesis]
  | case4 char rest plain path slot inductionHypothesis =>
      rw [renderFrom, plain, slot, Segment.renderAll_cons, ← inductionHypothesis, Segment.render]
      dsimp only
      cases context.at? path <;> rfl
  | case5 char rest plain noSlot inductionHypothesis =>
      rw [renderFrom, plain, noSlot, Segment.renderAll_consText, ← inductionHypothesis]
      rfl

/-- A template is rendered by its segments, without its directives. -/
theorem render_eq_renderAll (template : Text) (context : Value) :
    render template context =
      Segment.renderAll context (Segment.ofTemplate (withoutDirectives template)) :=
  renderFrom_eq_renderAll context 0 _

/-- A template in a context that shows a text in every slot. -/
theorem render_eq_fill {template : Text} {context : Value} {texts : Text → Text}
    (shown : ∀ path ∈ Segment.paths (Segment.ofTemplate (withoutDirectives template)),
      (context.at? path).map Value.slotText = .ok (texts path)) :
    render template context =
      .ok (Segment.fill texts (Segment.ofTemplate (withoutDirectives template))) := by
  rw [render_eq_renderAll]
  exact Segment.mapM_render shown

/-- Rendering is substitution in the segments of the template. -/
structure Substitutes (template : Text) (context : Value) : Prop where
  /-- The text is that of the segments, one after the other. -/
  whole : render template context =
    (((Segment.ofTemplate (withoutDirectives template)).mapM (Segment.render context)).map
      List.flatten)
  /-- No two literals are neighbours. -/
  normal : Segment.IsNormal (Segment.ofTemplate (withoutDirectives template))
  /-- No literal is empty. -/
  solid : ∀ literal, .literal literal ∈ Segment.ofTemplate (withoutDirectives template) →
    literal ≠ []
  /-- Behind the text in front of a slot stands the text of its value, whatever it holds, and behind
  that the text of the rest. -/
  verbatim : ∀ front path back,
    Segment.ofTemplate (withoutDirectives template) = front ++ .slot path :: back →
      ∀ text, render template context = .ok text →
        ∃ before value after, Segment.renderAll context front = .ok before ∧
          context.at? path = .ok value ∧ Segment.renderAll context back = .ok after ∧
          text = before ++ (value.slotText ++ after)

/-- Every template in every context is rendered by substitution. -/
theorem render_substitutes (template : Text) (context : Value) : Substitutes template context where
  whole := render_eq_renderAll template context
  normal := Segment.isNormal_ofTemplate _
  solid := Segment.literal_ne_nil _
  verbatim := by
    intro front path back split text made
    rw [render_eq_renderAll, split] at made
    exact Segment.renderAll_slot made

example : render "{{a}} {x}, {y}\x7b" (.record [("x", .text "{y} {{z}}"), ("y", .int 1)]) =
    .ok "{a} {y} {{z}}, 1\x7b" := by
  decide +kernel

end Issuebook.Template
