import IndexWire.Proofs.Wire.RoundTrip

/-!
# What a failed write leaves

A write that fails has handed over some pieces of the request, but not all of them: a destination
that keeps whole pieces has refused one, or the policy has refused a text of a collection. Either
way the bytes that were taken are a proper part of those that the policy `replace` writes, and no
proper part of them is ever read as a value.
-/

namespace IndexWire

namespace Sink

/-- A write that fails takes a part of the pieces that an accepted request has. -/
theorem exists_lost_of_write_fault {store : Store} {sink : Sink} {request : Request}
    (accepted : (request.plan .replace).fault = none) (whole : sink.destination.IsWhole store)
    (failed : (sink.write store request).fault ≠ none) :
    ∃ taken lost, (request.plan .replace).pieces = taken ++ lost ∧ lost ≠ [] ∧
      Destination.Took (store, sink.destination) (taken.flatMap Piece.bytes)
        ((sink.write store request).state.1, (sink.write store request).state.2.destination) := by
  rcases Destination.deliver_whole whole (request.plan sink.policy).pieces with
      ⟨taken, rest, split, complete, took⟩
  have cut := Request.cuts_plan sink.policy accepted
  simp only [write, carryOut] at failed ⊢
  generalize request.plan sink.policy = plan at cut split complete failed took ⊢
  cases cut with
  | same =>
      refine ⟨taken, rest, split, ?_, took⟩
      intro none
      rw [complete.mpr none, accepted] at failed
      exact failed rfl
  | refused fault before missing =>
      simp only at split
      refine ⟨taken, rest ++ _, ?_, List.append_ne_nil_of_right_ne_nil rest missing, took⟩
      rw [before, split, List.append_assoc]

end Sink

namespace Request

/--
No proper part of what an accepted request writes is read as a value, and no failed write of it
leaves more than such a part, whatever its policy and wherever it fails.
-/
theorem truncated_unreadable (request : Request) (accepted : (request.plan .replace).fault = none)
    (short : request.IsShort) :
    (∀ part, part <+: (request.plan .replace).bytes → part ≠ (request.plan .replace).bytes →
      request.shape.read part = .error .ended) ∧
    ∀ (store : Store) (sink : Sink), sink.destination.IsWhole store →
      (sink.write store request).fault ≠ none →
        ∃ part, part <+: (request.plan .replace).bytes ∧ part ≠ (request.plan .replace).bytes ∧
          request.shape.read part = .error .ended ∧
          Destination.Took (store, sink.destination) part
            ((sink.write store request).state.1,
              (sink.write store request).state.2.destination) := by
  have spelled := spells accepted short
  refine ⟨spelled.truncated, ?_⟩
  intro store sink whole failed
  rcases Sink.exists_lost_of_write_fault accepted whole failed with
      ⟨taken, lost, split, missing, took⟩
  have full : (request.plan .replace).bytes
      = taken.flatMap Piece.bytes ++ lost.flatMap Piece.bytes := by
    rw [Plan.bytes, split, List.flatMap_append]
  have filled : Plan.IsFilled { pieces := lost } := by
    intro piece mem
    refine (built_plan .replace request).isFilled piece ?_
    rw [split]
    exact List.mem_append_right taken mem
  have more : lost.flatMap Piece.bytes ≠ [] := Plan.bytes_ne_nil filled missing
  have short : taken.flatMap Piece.bytes <+: (request.plan .replace).bytes :=
    full ▸ List.prefix_append _ _
  have proper : taken.flatMap Piece.bytes ≠ (request.plan .replace).bytes := by
    intro same
    rw [full] at same
    exact more (List.self_eq_append_right.mp same)
  exact ⟨_, short, proper, spelled.truncated _ short proper, took⟩

/-- A window of five bytes takes the counts before a text of two bytes, and then refuses it. -/
theorem truncated_unreadable_window :
    let attempt := Sink.write { buffers := [{ bytes := [9, 9, 9, 9, 9, 9] }] }
      { policy := .replace, destination := .region ⟨0, 1, 6, 1⟩ }
      (.stringSet (.list [.text (Text.ofString "ab")]))
    ∃ part, part <+: [0, 0, 0, 1, 2, 97, 98] ∧ part ≠ [0, 0, 0, 1, 2, 97, 98] ∧
      Wire.Shape.stringSet.read part = .error .ended ∧
      attempt.state.2.destination.contents attempt.state.1
        = some ((Memory.ofBytes [9, 9, 9, 9, 9, 9] 1).put part) := by
  intro attempt
  have planned : plan .replace (.stringSet (.list [.text (Text.ofString "ab")]))
      = { pieces := [.range [0, 0, 0, 1], .range [2], .range [97, 98]] } := by
    decide +kernel
  have accepted : (plan .replace (.stringSet (.list [.text (Text.ofString "ab")]))).fault = none :=
    congrArg Plan.fault planned
  have failed : attempt.fault ≠ none := by
    simp only [attempt, Sink.write, planned]
    decide
  have placed : Region.IsPlaced { buffers := [{ bytes := [9, 9, 9, 9, 9, 9] }] } ⟨0, 1, 6, 1⟩ :=
    ⟨by decide, by decide, by decide, by decide⟩
  rcases (truncated_unreadable _ accepted ⟨by decide, by decide⟩).2 _
      { policy := .replace, destination := .region ⟨0, 1, 6, 1⟩ } placed failed with
      ⟨part, inside, proper, unread, took⟩
  rw [planned] at inside proper
  exact ⟨part, inside, proper, unread, took.contents⟩

end Request

end IndexWire
