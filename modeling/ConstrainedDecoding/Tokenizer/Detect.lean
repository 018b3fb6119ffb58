import ConstrainedDecoding.Json.Basic
import ConstrainedDecoding.Tokenizer.Encoding

/-! Telling the encoding of a tokenizer from the steps of its pipelines. -/

namespace ConstrainedDecoding

theorem Json.sizeOf_lt_of_get? {key : String} {j v : Json} (h : j.get? key = some v) :
    sizeOf v < sizeOf j := by
  unfold Json.get? at h
  split at h
  · next members =>
    obtain ⟨m, hm, rfl⟩ := Option.map_eq_some_iff.1 h
    have hmem := List.mem_reverse.1 (List.mem_of_find?_eq_some hm)
    have := List.sizeOf_lt_of_mem hmem
    obtain ⟨k, w⟩ := m
    simp only [Json.object.sizeOf_spec, Prod.mk.sizeOf_spec] at this ⊢
    omega
  · simp at h

namespace TokenEncoding

/-- The types of the steps of a pipeline, whose sequences hold their steps under `key`. -/
def stepTypes (key : String) (node : Json) : List String :=
  match (node.get? "type").bind (·.text?) with
  | none => []
  | some kind =>
    if kind = "Sequence" then
      match _h : node.get? key with
      | some (.array items) => items.attach.flatMap fun ⟨item, _⟩ => stepTypes key item
      | _ => []
    else [kind]
termination_by sizeOf node
decreasing_by
  have := Json.sizeOf_lt_of_get? _h
  have := List.sizeOf_lt_of_mem ‹item ∈ items›
  simp only [Json.array.sizeOf_spec] at *
  omega

def detect (tokenizer : Json) : TokenEncoding :=
  let types (part key : String) := stepTypes key ((tokenizer.get? part).getD .null)
  let before := types "pre_tokenizer" "pretokenizers"
  let after := types "decoder" "decoders"
  if before.contains "ByteLevel" || after.contains "ByteLevel" then byteLevel
  else
    let declared := do (← (← tokenizer.get? "model").get? "byte_fallback").bool?
    let byteFallback := declared.getD false || after.contains "ByteFallback"
    if byteFallback || before.contains "Metaspace" || after.contains "Metaspace" ||
        after.contains "Replace" then
      sentencePiece byteFallback
    else raw

end TokenEncoding

end ConstrainedDecoding
