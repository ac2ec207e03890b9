import DataPipeline.Editor.Session
import DataPipeline.Proofs.Codec.Refinement
import DataPipeline.Proofs.Workflow.Rereading

/-!
# Editing without a memory

The editor keeps no workflow: a request carries the text of one, and the next request carries the
text of the snapshot in the answer, or the same text again if there is none. Request by request the
answers are those of a workflow that is loaded once and edited in place. For the text of a request
loads as that workflow at every moment: what is loaded is sound, edits keep it so, and a sound
workflow is read back from its snapshot, so nothing is lost or changed on the way through a text.

That the scanner finds in a text the document that was written is not shown here but asked of the
texts that are sent. Documents that are nested deeper than a text may be have no such text.

## Main definitions

* `Editor.Request`, `Editor.Request.Asks`: the requests that edit, and their edits
* `Editor.answers`: the answers to a sequence of requests
* `Editor.Carries`: the document that stands in a text
* `Workflow.outcomes`: what becomes of a sequence of edits
* `Editor.Tells`: an answer says what became of an edit

## Main results

* `Editor.answer_eq`: the answer to one request
* `Editor.forall₂_tells`: the answers to a sequence of requests
-/
namespace DataPipeline

/-- The result of every edit of a sequence; a rejected one leaves the workflow as it is. -/
def Workflow.outcomes : Workflow → List Edit → List (Except EditError Workflow)
  | _, [] => []
  | w, e :: es => w.apply e :: (w.attempt e).outcomes es

namespace Editor

variable {write : Json → String} {text : String} {w w' : Workflow} {j : Json}

/-! ## Sessions -/

/-- The requests that edit. -/
inductive Request where
  | connect (source target : String)
  | eraseNode (id : String)
  | patchSettings (id patchText : String)

namespace Request

/-- The answer to a request that carries the text of a workflow. -/
def answer (text : String) : Request → Json
  | connect s t => Editor.connect text s t
  | eraseNode id => Editor.eraseNode text id
  | patchSettings id patchText => Editor.patchSettings text id patchText

/-- The edit that a request asks for. -/
inductive Asks : Request → Edit → Prop
  | connect {s t : String} : Asks (.connect s t) (.connect s t)
  | eraseNode {id : String} : Asks (.eraseNode id) (.eraseNode id)
  | patchSettings {id patchText : String} {patch : Json} (h : Json.ofText patchText = .ok patch) :
      Asks (.patchSettings id patchText) (.patchSettings id patch)

end Request

/-- The text to be sent next. -/
def nextText (write : Json → String) (text : String) (answer : Json) : String :=
  ((answer.member "snapshot").map write).getD text

/-- The answers to requests of which each carries the workflow that the answers before it have led
to. -/
def answers (write : Json → String) : String → List Request → List Json
  | _, [] => []
  | text, r :: rs => r.answer text :: answers write (nextText write text (r.answer text)) rs

@[simp] theorem nextText_refusal (ds : List Diagnostic) :
    nextText write text (refusal ds) = text := rfl

@[simp] theorem nextText_success (j : Json) :
    nextText write text (.obj [("status", .str "success"), ("snapshot", j)]) = write j := rfl

/-- What is scanned of the text, when a workflow is expected there, is the document. -/
def Carries (text : String) (j : Json) : Prop :=
  Json.document (WorkflowEnvelope.codec.scan Json.maxDepth) text = .ok j

/-- The answer says that the edit succeeded and has the workflow as a document from which it is read
back, or has the diagnostic of the edit and nothing else. -/
inductive Tells : Json → Except EditError Workflow → Prop
  | success {w : Workflow} (h : Workflow.ofJson (Workflow.codec.toJson w) = .ok w) :
      Tells (.obj [("status", .str "success"), ("snapshot", Workflow.codec.toJson w)]) (.ok w)
  | rejected {e : EditError} : Tells (refusal [e.diagnostic]) (.error e)

/-! ## One request -/

/-- The workflow that is read from a document is loaded from the text that carries it. -/
theorem Carries.load (h : Carries text j) (hj : Workflow.ofJson j = .ok w) :
    Workflow.load text = .ok w := by
  obtain ⟨e, he, hw⟩ := Workflow.ofJson_eq_ok_iff.1 hj
  exact Workflow.load_eq_ok_iff.2 ⟨e, Codec.ofText_eq_ok_iff.2 ⟨j, h, he⟩, hw⟩

theorem edit_of_load (h : Workflow.load text = .ok w) (e : Edit) :
    edit text e = (w.apply e).mapError fun e => [e.diagnostic] := by
  rw [edit, h]
  rfl

theorem answer_eq (h : Workflow.load text = .ok w) {r : Request} {e : Edit} (hr : r.Asks e) :
    r.answer text = editAnswer ((w.apply e).mapError fun e => [e.diagnostic]) := by
  cases hr with
  | connect => exact congrArg editAnswer (edit_of_load h _)
  | eraseNode => exact congrArg editAnswer (edit_of_load h _)
  | patchSettings hpatch =>
    rw [Request.answer, patchSettings, patch, hpatch]
    exact congrArg editAnswer (edit_of_load h _)

theorem plain_of_asks {r : Request} {e : Edit} (hr : r.Asks e) : e.Plain := by
  cases hr with
  | connect => trivial
  | eraseNode => trivial
  | patchSettings h => exact Json.sorted_of_ofText h

/-- The step: the answer tells what became of the edit, and the text to be sent next loads as the
workflow after it. -/
theorem tells_answer (hload : Workflow.load text = .ok w) (hsound : ∀ n ∈ w.nodes, n.Sound)
    {r : Request} {e : Edit} (hr : r.Asks e)
    (hwrite : ∀ j, (r.answer text).member "snapshot" = some j → Carries (write j) j) :
    Tells (r.answer text) (w.apply e) ∧
      Workflow.load (nextText write text (r.answer text)) = .ok (w.attempt e) := by
  have hreread := Workflow.ofJson_toJson (Workflow.sound_attempt hsound (plain_of_asks hr))
  rw [answer_eq hload hr] at hwrite ⊢
  rw [Workflow.attempt] at hreread ⊢
  cases he : w.apply e with
  | error cause => exact ⟨.rejected, hload⟩
  | ok w' =>
    rw [he] at hwrite hreread
    exact ⟨.success hreread, (hwrite _ rfl).load hreread⟩

/-! ## Sequences of requests -/

/-- The run: by induction on the requests. The text to be sent loads as the workflow, and its nodes
are sound. -/
theorem forall₂_tells_of_sound {rs : List Request} {es : List Edit}
    (hload : Workflow.load text = .ok w) (hsound : ∀ n ∈ w.nodes, n.Sound)
    (hrs : List.Forall₂ Request.Asks rs es)
    (hwrite : ∀ a ∈ answers write text rs, ∀ j, a.member "snapshot" = some j →
      Carries (write j) j) :
    List.Forall₂ Tells (answers write text rs) (w.outcomes es) := by
  induction hrs generalizing text w with
  | nil => exact .nil
  | @cons r e rs es hr hrs ih =>
    obtain ⟨htells, hnext⟩ := tells_answer hload hsound hr (hwrite _ (.head _))
    have hsound' := Workflow.sound_attempt hsound (plain_of_asks hr)
    exact .cons htells (ih hnext hsound' fun a ha => hwrite a (.tail _ ha))

/-- Requests that carry their workflow as a text are answered like the edits of one workflow in
memory: each succeeds or is rejected with the same diagnostic, and each snapshot is that of the
workflow in memory. -/
theorem forall₂_tells {rs : List Request} {es : List Edit} (hload : Workflow.load text = .ok w)
    (hrs : List.Forall₂ Request.Asks rs es)
    (hwrite : ∀ a ∈ answers write text rs, ∀ j, a.member "snapshot" = some j →
      Carries (write j) j) :
    List.Forall₂ Tells (answers write text rs) (w.outcomes es) :=
  forall₂_tells_of_sound hload (Workflow.sound_of_load hload) hrs hwrite

/-! ## A session -/

/-- A document is carried by its text if the scanner finds it there and nothing behind it. -/
theorem carries_compress
    (h : (WorkflowEnvelope.codec.scan Json.maxDepth).run j.compact = .ok (j, [])) :
    Carries j.compress j := by
  refine Json.document_eq_ok_iff.2 ⟨[], ?_, [], rfl⟩
  rwa [Json.compress, String.toList_ofList]

/-- A start node alone. -/
def sketchText : String := "\x7b\"nodes\":[\x7b\"id\":\"s\",\"type\":\"start\"\x7d]\x7d"

def sketch : Workflow where
  nodes := [{ id := "s", settings := .start {} }]

/-- The start node with a note that its kind knows nothing about. -/
def notedSketch : Workflow where
  nodes := [{
    id := "s"
    settings := .start { extra := .ofList [("note", .int 1)] }
    editedFields := .ofList ["note"] }]

/-- A connection is rejected; then the user leaves the note, and at last removes the node. -/
def sketchRequests : List Request :=
  [.connect "s" "t", .patchSettings "s" "\x7b\"note\":1\x7d", .eraseNode "s"]

def sketchEdits : List Edit :=
  [.connect "s" "t", .patchSettings "s" (.obj [("note", .int 1)]), .eraseNode "s"]

theorem load_sketchText : Workflow.load sketchText = .ok sketch := by
  have hcarries : Carries sketchText
      (.obj [("nodes", .arr [.obj [("id", .str "s"), ("type", .str "start")]])]) := by
    rw [Carries]
    decide +kernel
  exact hcarries.load rfl

theorem carries_notedSketch :
    Carries (Workflow.codec.toJson notedSketch).compress (Workflow.codec.toJson notedSketch) :=
  carries_compress (by decide +kernel)

theorem carries_empty : Carries (Workflow.codec.toJson {}).compress (Workflow.codec.toJson {}) :=
  carries_compress (by decide +kernel)

theorem ofText_note : Json.ofText "\x7b\"note\":1\x7d" = .ok (.obj [("note", .int 1)]) := by
  decide +kernel

theorem asks_sketch : List.Forall₂ Request.Asks sketchRequests sketchEdits :=
  .cons .connect (.cons (.patchSettings ofText_note) (.cons .eraseNode .nil))

theorem answers_sketch : answers Json.compress sketchText sketchRequests =
    [refusal [(EditError.unknownNode "t").diagnostic],
      .obj [("status", .str "success"), ("snapshot", Workflow.codec.toJson notedSketch)],
      .obj [("status", .str "success"), ("snapshot", Workflow.codec.toJson {})]] := by
  have hfirst : (Request.connect "s" "t").answer sketchText =
      refusal [(EditError.unknownNode "t").diagnostic] := answer_eq load_sketchText .connect
  have hsecond : (Request.patchSettings "s" "\x7b\"note\":1\x7d").answer sketchText =
      .obj [("status", .str "success"), ("snapshot", Workflow.codec.toJson notedSketch)] :=
    answer_eq load_sketchText (.patchSettings ofText_note)
  have hthird : (Request.eraseNode "s").answer (Workflow.codec.toJson notedSketch).compress =
      .obj [("status", .str "success"), ("snapshot", Workflow.codec.toJson {})] :=
    answer_eq (carries_notedSketch.load rfl) .eraseNode
  rw [sketchRequests, answers, hfirst, nextText_refusal, answers, hsecond, nextText_success,
    answers, hthird, answers]

/-- The rejected request leaves the text alone, the next one changes the workflow, and the last one
is about the snapshot in the answer to it. -/
theorem tells_sketch : ∃ w, Workflow.load sketchText = .ok w ∧
    List.Forall₂ Request.Asks sketchRequests sketchEdits ∧
    (∀ a ∈ answers Json.compress sketchText sketchRequests, ∀ j, a.member "snapshot" = some j →
      Carries j.compress j) ∧
    List.Forall₂ Tells (answers Json.compress sketchText sketchRequests)
      (w.outcomes sketchEdits) := by
  have hcarries : ∀ a ∈ answers Json.compress sketchText sketchRequests, ∀ j,
      a.member "snapshot" = some j → Carries j.compress j := by
    rw [answers_sketch]
    intro a ha j hj
    simp only [List.mem_cons, List.not_mem_nil, or_false] at ha
    rcases ha with rfl | rfl | rfl
    · cases hj
    · obtain rfl := Option.some.inj hj
      exact carries_notedSketch
    · obtain rfl := Option.some.inj hj
      exact carries_empty
  exact ⟨sketch, load_sketchText, asks_sketch, hcarries,
    forall₂_tells load_sketchText asks_sketch hcarries⟩

end Editor

end DataPipeline
