import ClientSynthesis.Endpoint.Descriptor
import ClientSynthesis.Proofs.Descriptor.Rearrangement

/-!
# Rearranged endpoint descriptors

An endpoint descriptor that has been rearranged describes the same endpoint, or has the same fault,
and leads to the same events (`parse_eq_of_rearranged`). The paths are text, so of the templates
only the table of parts could be touched, and that is asked for one name after the other.
-/

namespace ClientSynthesis.Endpoint

open Descriptor (FieldsAlike Rearranged)
open Json (Fields)
open Report (Mirrors Traced)

variable {fields fields' : Fields} {parts parts' : Option Fields}

theorem parseMethods_eq (h : FieldsAlike .endpoint fields fields') (name : String) :
    parseMethods fields name = parseMethods fields' name := by
  rw [parseMethods, parseMethods, h.strings "methods" rfl (by decide)]

theorem parseBody_eq (h : FieldsAlike .endpoint fields fields') (name : String) :
    parseBody fields name = parseBody fields' name := by
  refine (h.object? "body" rfl (by decide) name).bind_eq fun body body' hbody ↦ ?_
  cases hbody with
  | some hbody => dsimp only; rw [hbody.bool? "required" rfl (by decide)]
  | none => rfl

theorem parsePart_eq (h : FieldsAlike .part fields fields') (name urlPath : String) :
    parsePart name fields urlPath = parsePart name fields' urlPath := by
  rw [parsePart, parsePart, h.string "type" rfl (by decide),
    h.string "description" rfl (by decide)]

theorem parseSegment_eq (h : Option.Rel (FieldsAlike .parts) parts parts') (path urlPath : String)
    (piece : List Char) :
    parseSegment path parts urlPath piece = parseSegment path parts' urlPath piece := by
  have htable : FieldsAlike .parts (parts.getD []) (parts'.getD []) := by
    cases h with
    | some h => exact h
    | none => exact .of_read_eq fun _ _ ↦ rfl
  unfold parseSegment
  cases placeholderName? piece with
  | none => rfl
  | some name =>
    refine (Traced.Mirrors.liftM (htable.object? name rfl (by decide) urlPath)).bind_eq
      fun entry entry' hentry ↦ ?_
    cases hentry with
    | some hentry => dsimp only; rw [parsePart_eq hentry]
    | none => rfl

theorem parseTemplate_eq (h : Option.Rel (FieldsAlike .parts) parts parts')
    (urlPath path : String) :
    parseTemplate parts urlPath path = parseTemplate parts' urlPath path := by
  unfold parseTemplate
  rw [funext (parseSegment_eq h path urlPath)]

/-- **A rearranged descriptor describes the same endpoint.** -/
theorem parse_eq_of_rearranged {document document' : Json}
    (h : Rearranged .endpoint document document') (name : String) :
    parse name document = parse name document' := by
  unfold parse
  refine (Traced.Mirrors.liftM (h.asObject name)).bind_eq
    fun descriptor descriptor' hdescriptor ↦ ?_
  rw [hdescriptor.string "documentation" rfl (by decide), parseMethods_eq hdescriptor]
  refine bind_congr fun documentation ↦ bind_congr fun allowedMethods ↦ ?_
  refine (Traced.Mirrors.liftM (hdescriptor.object? "url" rfl (by decide) name)).bind_eq
    fun url url' hurl ↦ ?_
  cases hurl with
  | none => rfl
  | some hurl =>
    dsimp only
    rw [hurl.strings "paths" rfl (by decide)]
    refine bind_congr fun paths ↦ ?_
    refine (Traced.Mirrors.liftM (hurl.object? "parts" rfl (by decide) _)).bind_eq
      fun parts parts' hparts ↦ ?_
    rw [funext (parseTemplate_eq hparts (name ++ ".url")), parseBody_eq hdescriptor]

end ClientSynthesis.Endpoint
