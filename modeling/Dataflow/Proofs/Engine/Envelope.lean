import Dataflow.Engine.Envelope
import Dataflow.Proofs.Json.Reading
import Dataflow.Proofs.Json.Value
/-!
# What an envelope says

The outputs of a run and the message of a failed one are read back from the text of the envelope as they were
written into it (`envelope_read_back`), whatever characters they are made of.
-/

namespace Dataflow.Envelope

theorem parsedOutputs?_success {outputs : SortedMap Json} (hcanonical : (Json.ofMap outputs).Canonical)
    (hfloat : (Json.ofMap outputs).isFloatFree = true) (hdepth : (Json.ofMap outputs).depth ≤ Json.maxDepth) :
    (success outputs).parsedOutputs? = some outputs := by
  rw [success, parsedOutputs?, Json.parse?_compress hfloat, Option.bind_some,
    Json.valueMap?_ofMap hcanonical hfloat hdepth]

/-- The text of a failed run is that of one output. -/
theorem parsedOutputs?_failure (message : String) :
    (failure message).parsedOutputs? = some (SortedMap.empty.insert errorKey (.str message)) := by
  have hcanonical : (Json.obj [(errorKey, .str message)]).Canonical := by
    simp [Json.Canonical, Json.CanonicalMembers]
  have hdepth : (Json.obj [(errorKey, .str message)]).depth ≤ Json.maxDepth := by
    simp [Json.depth, Json.depthMembers, Json.maxDepth]
  exact @parsedOutputs?_success (SortedMap.empty.insert errorKey (.str message)) hcanonical rfl hdepth

theorem errorMessage?_failure (message : String) : (failure message).errorMessage? = some message := by
  have hfailed : (failure message).isSuccess = false := rfl
  have hkey : (SortedMap.empty.insert errorKey (Json.str message)).get? errorKey = some (.str message) := rfl
  simp [errorMessage?, hfailed, parsedOutputs?_failure, hkey, Json.str?]

/-- The outputs of a run are read back from its envelope, and so is the message of a failed run. A run that
succeeded has no message, also if one of its outputs is called like one. -/
theorem envelope_read_back :
    (∀ outputs : SortedMap Json, (Json.ofMap outputs).Canonical → (Json.ofMap outputs).isFloatFree = true →
      (Json.ofMap outputs).depth ≤ Json.maxDepth →
      (success outputs).parsedOutputs? = some outputs ∧ (success outputs).errorMessage? = none) ∧
    ∀ message : String,
      (failure message).parsedOutputs? = some (SortedMap.empty.insert errorKey (.str message)) ∧
      (failure message).errorMessage? = some message := by
  constructor
  · intro outputs hcanonical hfloat hdepth
    exact ⟨parsedOutputs?_success hcanonical hfloat hdepth, rfl⟩
  · intro message
    exact ⟨parsedOutputs?_failure message, errorMessage?_failure message⟩

/-- Outputs with the least and the greatest number and a name that failed runs use, nested as deep as can be. -/
def extremes : SortedMap Json where
  entries :=
    [("a.b", .arr
      [.whole ⟨-0x8000000000000000, by decide, by decide⟩, .whole ⟨0xFFFFFFFFFFFFFFFF, by decide, by decide⟩,
      .obj [("", .obj []), ("\x7f\"", .null)]]), ("c.d", Json.nested 126), ("error", .str "\"\\\n\x00\x1fé😀/")]
  sorted := by decide

theorem extremes_read_back :
    ((Json.ofMap extremes).Canonical ∧ (Json.ofMap extremes).isFloatFree = true ∧
      (Json.ofMap extremes).depth = Json.maxDepth) ∧
    ((success extremes).parsedOutputs? = some extremes ∧ (success extremes).errorMessage? = none) ∧
    (failure "\"\\\n\x01é").errorMessage? = some "\"\\\n\x01é" := by
  have hinner : (Json.obj [("", .obj []), ("\x7f\"", .null)]).Canonical :=
    ⟨by decide, ⟨.nil, trivial⟩, trivial, trivial⟩
  have hcanonical : (Json.ofMap extremes).Canonical :=
    ⟨extremes.sorted, ⟨trivial, trivial, hinner, trivial⟩, Json.canonical_nested 126, trivial, trivial⟩
  have hfloat : (Json.ofMap extremes).isFloatFree = true := by
    simp [Json.ofMap, extremes, Json.isFloatFree, Json.isFloatFreeMembers, Json.isFloatFreeItems,
      Json.isFloatFree_nested]
  have hdepth : (Json.ofMap extremes).depth = Json.maxDepth := by
    simp [Json.ofMap, extremes, Json.depth, Json.depthMembers, Json.depthItems, Json.depth_nested, Json.maxDepth]
  have hread := envelope_read_back.1 extremes hcanonical hfloat hdepth.le
  exact ⟨⟨hcanonical, hfloat, hdepth⟩, hread, (envelope_read_back.2 _).2⟩

end Dataflow.Envelope
