import IndexWire.Proofs.Session.Window

/-!
# Reassembling short reads

A stream may answer a read with fewer bytes than it is asked for. Whoever wants more asks again for
what is missing, until there is nothing missing or an answer has no bytes. `Answers` is such a
conversation, for any stream: what it is asked for, the chunks that it gives, and the answer without
bytes that ends it. A stream has one such conversation only, and the range that is read into holds
the chunks one after another, however they were cut.
-/

namespace IndexWire

namespace Input

/-- How many bytes each read of a device asked for, oldest first; a file keeps no account. -/
def requests? : Input → Option (List Nat)
  | reader device => some device.requests
  | file _ _ => none

/-- A stream after requests to which it has given bytes. -/
structure Gave (asked : List Nat) (bytes : Bytes) (before after : Input) : Prop where
  origin : after.origin = before.origin
  position : after.position = before.position + bytes.length
  requests : after.requests? = before.requests?.map (· ++ asked)

theorem Gave.refl (input : Input) : Gave [] [] input input where
  origin := rfl
  position := rfl
  requests := by simp

theorem Gave.trans {first second : List Nat} {one two : Bytes} {before middle after : Input}
    (front : Gave first one before middle) (back : Gave second two middle after) :
    Gave (first ++ second) (one ++ two) before after where
  origin := back.origin.trans front.origin
  position := by
    rw [back.position, front.position, List.length_append, Nat.add_assoc]
  requests := by
    rw [back.requests, front.requests, Option.map_map]
    simp only [Function.comp_def, List.append_assoc]

theorem Gave.upcoming {asked : List Nat} {bytes : Bytes} {before after : Input}
    (gave : Gave asked bytes before after) (store : Store) :
    after.upcoming store = (before.upcoming store).drop bytes.length := by
  rw [Input.upcoming, Input.upcoming, gave.origin, gave.position, List.drop_drop]

section Read

variable {store : Store} {input after : Input} {wanted : Nat}

theorem gave_read (store : Store) (input : Input) (wanted : Nat) :
    Gave [wanted] ((input.read store wanted).2.toOption.getD []) input
      (input.read store wanted).1 := by
  cases input with
  | file location position => exact ⟨rfl, rfl, rfl⟩
  | reader device =>
      simp only [read, Reader.read]
      split
      · exact ⟨rfl, rfl, by simp [requests?, Reader.requests]⟩
      · split <;> exact ⟨rfl, rfl, by simp [requests?, Reader.requests, Reader.give]⟩

theorem gave_of_ok {bytes : Bytes} (read : input.read store wanted = (after, .ok bytes)) :
    Gave [wanted] bytes input after := by
  have gave := gave_read store input wanted
  rwa [read] at gave

theorem gave_of_error {fault : Fault} (read : input.read store wanted = (after, .error fault)) :
    Gave [wanted] [] input after := by
  have gave := gave_read store input wanted
  rwa [read] at gave

/-- What a stream gives is next, and no more than it is asked for. -/
theorem eq_take_of_ok {bytes : Bytes} (read : input.read store wanted = (after, .ok bytes)) :
    bytes.length ≤ wanted ∧ bytes <+: input.upcoming store := by
  cases input with
  | file location position =>
      cases read
      exact ⟨List.length_take_le _ _, List.take_prefix _ _⟩
  | reader device =>
      simp only [Input.read, Reader.read] at read
      split at read
      · cases read
      · split at read
        · cases read
          simp only [upcoming, origin, Content.bytes_origin]
          refine ⟨?_, List.take_prefix _ _⟩
          exact Nat.le_trans (List.length_take_le _ _) (Nat.min_le_left _ _)
        · cases read
          exact ⟨Nat.zero_le _, List.nil_prefix⟩
        · cases read

end Read

/--
A stream is asked for what is missing of the bytes wanted, until it has given them, ends or fails.
What a read finds in the store may depend on the bytes given before.
-/
inductive Answers (seen : Bytes → Store) :
    Input → Bytes → Nat → List Nat → List Bytes → Option (Except Fault Bytes) → Input → Prop
  | full (input : Input) (given : Bytes) : Answers seen input given 0 [] [] none input
  | ended {input after : Input} {given : Bytes} {missing : Nat} (unfinished : 0 < missing)
      (read : input.read (seen given) missing = (after, .ok [])) :
      Answers seen input given missing [missing] [] (some (.ok [])) after
  | failed {input after : Input} {given : Bytes} {missing : Nat} {fault : Fault}
      (unfinished : 0 < missing)
      (read : input.read (seen given) missing = (after, .error fault)) :
      Answers seen input given missing [missing] [] (some (.error fault)) after
  | chunk {input next after : Input} {given chunk : Bytes} {missing : Nat} {asked : List Nat}
      {chunks : List Bytes} {stop : Option (Except Fault Bytes)} (nonempty : chunk ≠ [])
      (unfinished : 0 < missing)
      (read : input.read (seen given) missing = (next, .ok chunk))
      (rest : Answers seen next (given ++ chunk) (missing - chunk.length) asked chunks stop after) :
      Answers seen input given missing (missing :: asked) (chunk :: chunks) stop after

namespace Answers

variable {seen : Bytes → Store} {input after : Input} {given : Bytes} {missing : Nat}
  {asked : List Nat} {chunks : List Bytes} {stop : Option (Except Fault Bytes)}

theorem gave (answers : Answers seen input given missing asked chunks stop after) :
    Gave asked chunks.flatten input after := by
  induction answers with
  | full input given => exact Gave.refl input
  | ended unfinished read => exact gave_of_ok read
  | failed unfinished read => exact gave_of_error read
  | chunk nonempty unfinished read rest ih => exact (gave_of_ok read).trans ih

/-- All bytes are given exactly when no answer is without bytes; more are never given. -/
theorem length_flatten (answers : Answers seen input given missing asked chunks stop after) :
    chunks.flatten.length ≤ missing ∧ (stop = none ↔ chunks.flatten.length = missing) := by
  induction answers with
  | full input given => simp
  | ended unfinished read =>
      simp only [List.flatten_nil, List.length_nil, reduceCtorEq, false_iff]
      omega
  | failed unfinished read =>
      simp only [List.flatten_nil, List.length_nil, reduceCtorEq, false_iff]
      omega
  | chunk nonempty unfinished read rest ih =>
      have most := (eq_take_of_ok read).1
      rcases ih with ⟨within, complete⟩
      rw [List.flatten_cons, List.length_append, complete]
      omega

/-- There is no request more than there are bytes, since each but the last has got one. -/
theorem length_asked_le (answers : Answers seen input given missing asked chunks stop after) :
    asked.length ≤ missing := by
  induction answers with
  | full input given => exact Nat.le_refl 0
  | ended unfinished read => exact unfinished
  | failed unfinished read => exact unfinished
  | chunk nonempty unfinished read rest ih =>
      have some := List.length_pos_iff.mpr nonempty
      rw [List.length_cons]
      omega

/-- Each request is for what the chunks before it have left missing. -/
theorem asked_eq (answers : Answers seen input given missing asked chunks stop after) {index : Nat}
    (inside : index < asked.length) :
    asked[index]? = some (missing - (chunks.take index).flatten.length) := by
  induction answers generalizing index with
  | full input given => exact absurd inside (Nat.not_lt_zero index)
  | ended unfinished read =>
      obtain rfl : index = 0 := Nat.lt_one_iff.mp inside
      simp
  | failed unfinished read =>
      obtain rfl : index = 0 := Nat.lt_one_iff.mp inside
      simp
  | chunk nonempty unfinished read rest ih =>
      cases index with
      | zero => simp
      | succ index =>
          rw [List.getElem?_cons_succ, ih (Nat.lt_of_succ_lt_succ inside), List.take_succ_cons,
            List.flatten_cons, List.length_append, Nat.sub_sub]

/-- Where the reads do not change what the stream reads from, it gives its next bytes. -/
theorem flatten_prefix {store : Store}
    (steady : ∀ given, input.origin.bytes (seen given) = input.origin.bytes store)
    (answers : Answers seen input given missing asked chunks stop after) :
    chunks.flatten <+: input.upcoming store := by
  induction answers with
  | full | ended | failed => exact List.nil_prefix
  | @chunk input _ _ given chunk _ _ _ _ nonempty unfinished read rest ih =>
      have gave := gave_of_ok read
      have later := ih (by rw [gave.origin]; exact steady)
      rw [gave.upcoming] at later
      have first := (eq_take_of_ok read).2
      have same : input.upcoming (seen given) = input.upcoming store := by
        simp only [upcoming, steady]
      rw [same] at first
      rcases first with ⟨others, joined⟩
      rw [← joined, List.drop_left] at later
      rw [List.flatten_cons, ← joined]
      exact (List.prefix_append_right_inj chunk).mpr later

/-- A stream has no other conversation. -/
theorem unique {otherAsked : List Nat} {otherChunks : List Bytes}
    {otherStop : Option (Except Fault Bytes)} {otherAfter : Input}
    (one : Answers seen input given missing asked chunks stop after)
    (two : Answers seen input given missing otherAsked otherChunks otherStop otherAfter) :
    otherAsked = asked ∧ otherChunks = chunks ∧ otherStop = stop ∧ otherAfter = after := by
  induction one generalizing otherAsked otherChunks otherStop otherAfter with
  | full input given =>
      cases two with
      | full => exact ⟨rfl, rfl, rfl, rfl⟩
      | ended unfinished | failed unfinished | chunk _ unfinished =>
          exact absurd unfinished (Nat.lt_irrefl 0)
  | ended unfinished read =>
      cases two with
      | full => exact absurd unfinished (Nat.lt_irrefl 0)
      | ended _ again =>
          cases read.symm.trans again
          exact ⟨rfl, rfl, rfl, rfl⟩
      | failed _ again => cases read.symm.trans again
      | chunk nonempty _ again =>
          cases read.symm.trans again
          exact absurd rfl nonempty
  | failed unfinished read =>
      cases two with
      | full => exact absurd unfinished (Nat.lt_irrefl 0)
      | ended _ again => cases read.symm.trans again
      | failed _ again =>
          cases read.symm.trans again
          exact ⟨rfl, rfl, rfl, rfl⟩
      | chunk _ _ again => cases read.symm.trans again
  | chunk nonempty unfinished read rest ih =>
      cases two with
      | full => exact absurd unfinished (Nat.lt_irrefl 0)
      | ended _ again =>
          cases read.symm.trans again
          exact absurd rfl nonempty
      | failed _ again => cases read.symm.trans again
      | chunk _ _ again more =>
          cases read.symm.trans again
          rcases ih more with ⟨rfl, rfl, rfl, rfl⟩
          exact ⟨rfl, rfl, rfl, rfl⟩

end Answers

/-- Why bytes are missing after an answer without bytes. -/
def shortfall (filled wanted : Nat) : Option (Except Fault Bytes) → Option Fault
  | none => none
  | some (.ok _) => some (.streamEnded filled wanted)
  | some (.error fault) => some fault

/-- What fills a target asks the stream for what is missing, and puts the chunks at its cursor. -/
theorem fill_answers {shared : Option BufferId} {seen : Bytes → Store} {first : Memory}
    (sees : ∀ given chunk, (shared.elim (seen given) fun id =>
      (seen given).refresh id (first.put (given ++ chunk)).buffer) = seen (given ++ chunk))
    (input : Input) (given : Bytes) (wanted filled : Nat) :
    ∃ asked chunks stop after,
      input.Answers seen given (wanted - filled) asked chunks stop after ∧
        input.fill (seen given) shared (first.put given) (wanted - filled) wanted filled
          = { state := (after, first.put (given ++ chunks.flatten))
              fault := shortfall (filled + chunks.flatten.length) wanted stop } := by
  -- by what is missing: each chunk is not empty, and so less is missing after it
  generalize left : wanted - filled = missing
  induction missing using Nat.strongRecOn generalizing input given filled with
  | ind missing ih =>
      rcases Nat.eq_zero_or_pos missing with rfl | unfinished
      · refine ⟨[], [], none, input, .full input given, ?_⟩
        rw [fill, dif_neg (by omega), List.flatten_nil, List.append_nil]
        rfl
      · rcases answer : input.read (seen given) missing with ⟨next, fault | _ | ⟨head, tail⟩⟩
        case error =>
          refine ⟨_, _, _, next, .failed unfinished answer, ?_⟩
          rw [fill, dif_pos (by omega), left, answer, List.flatten_nil, List.append_nil]
          rfl
        case ok.nil =>
          refine ⟨_, _, _, next, .ended unfinished answer, ?_⟩
          rw [fill, dif_pos (by omega), left, answer, List.flatten_nil, List.append_nil]
          rfl
        case ok.cons =>
          have fits : tail.length + 1 ≤ missing := (eq_take_of_ok answer).1
          rcases ih (missing - (tail.length + 1)) (by omega) next (given ++ head :: tail)
            (filled + (tail.length + 1)) (by omega) with ⟨asked, chunks, stop, after, rest, filling⟩
          refine ⟨_, _, stop, after, .chunk (List.cons_ne_nil head tail) unfinished answer rest, ?_⟩
          rw [fill, dif_pos (by omega), left, answer]
          simp only [if_pos fits, Memory.put_put, sees]
          rw [filling, List.flatten_cons, List.append_assoc, List.length_append, Nat.add_assoc]
          rfl

end Input

namespace Store

variable {store : Store} {id : BufferId}

theorem setBuffer_of_not_made (missing : ¬id < store.buffers.length) (buffer : Buffer) :
    store.setBuffer id buffer = store := by
  have same := List.set_eq_of_length_le (a := buffer) (Nat.not_lt.mp missing)
  simp only [setBuffer, same]

theorem refresh_self (store : Store) (id : BufferId) :
    store.refresh id (store.buffer id).bytes = store := by
  by_cases made : id < store.buffers.length
  · have held : store.buffer id = store.buffers[id] := by simp [Store.buffer, made]
    have same : store.buffers.set id (store.buffer id) = store.buffers := by
      rw [held]
      exact List.set_getElem_self made
    exact congrArg (fun buffers => { store with buffers }) same
  · exact setBuffer_of_not_made made _

theorem refresh_refresh (store : Store) (id : BufferId) (first second : Bytes) :
    (store.refresh id first).refresh id second = store.refresh id second := by
  by_cases made : id < store.buffers.length
  · simp [refresh, setBuffer, Store.buffer, made]
  · have missing (bytes : Bytes) : store.refresh id bytes = store := setBuffer_of_not_made made _
    rw [missing, missing]

theorem bytes_setBuffer_self {buffer : Buffer}
    (size : buffer.bytes.length = (store.buffer id).bytes.length) :
    ((store.setBuffer id buffer).buffer id).bytes = buffer.bytes := by
  by_cases made : id < store.buffers.length
  · rw [buffer_setBuffer_self made]
  · simp only [Store.buffer, List.getElem?_eq_none (Nat.not_lt.mp made), Option.getD_none,
      List.length_nil, List.length_eq_zero_iff] at size
    simp [setBuffer, Store.buffer, made, size]

end Store

/-- Bytes put over as many others inside of a buffer, which may be viewed. -/
theorem Buffer.splice_of_le {buffer : Buffer} {start : Nat} {data : Bytes}
    (inside : start + data.length ≤ buffer.bytes.length) :
    buffer.splice start (start + data.length : Nat) data
      = .ok { buffer with
          bytes :=
            buffer.bytes.take start ++ data ++ buffer.bytes.drop (start + data.length) } := by
  have same := Bytes.length_splice_of_le inside
  simp only [Buffer.splice, same, ne_eq, not_true_eq_false, false_and, if_false]
  rw [Bytes.splice_of_le (by omega)]

namespace Source

variable {store : Store} {offset length : Nat}

/-- A read of a range of a buffer from a stream leaves the chunks of a conversation there. -/
theorem readInto_stream_answers {id : BufferId}
    (inside : offset + length ≤ (store.buffer id).bytes.length) (input : Input) :
    let original := (store.buffer id).bytes
    let holding (data : Bytes) : Bytes :=
      original.take offset ++ data ++ original.drop (offset + data.length)
    ∃ asked chunks stop after,
      input.Answers (fun given => store.refresh id (holding given)) [] length asked chunks stop
          after ∧
        (stream input).readInto store (some id) (store.buffer id) offset length
          = { state :=
                (stream after, { store.buffer id with bytes := holding chunks.flatten })
              fault := Input.shortfall chunks.flatten.length length stop } := by
  intro original holding
  have put (data : Bytes) : ((Memory.ofBytes original offset).put data).buffer = holding data := by
    simp [holding, Memory.buffer, Memory.value, Memory.put, Memory.ofBytes, List.drop_drop]
  have nothing : store.refresh id (holding []) = store := by
    simp only [holding, List.append_nil, List.length_nil, Nat.add_zero, List.take_append_drop]
    exact Store.refresh_self store id
  have sees (given chunk : Bytes) :
      ((some id).elim (store.refresh id (holding given)) fun id =>
          (store.refresh id (holding given)).refresh id
            ((Memory.ofBytes original offset).put (given ++ chunk)).buffer)
        = store.refresh id (holding (given ++ chunk)) := by
    simp only [Option.elim_some, Store.refresh_refresh, put]
  rcases @Input.fill_answers (some id) _ (.ofBytes original offset) sees input [] length 0 with
      ⟨asked, chunks, stop, after, answers, filling⟩
  rw [Nat.sub_zero] at answers
  simp only [nothing, Memory.put_nil, Nat.sub_zero, Nat.zero_add, List.nil_append] at filling
  refine ⟨asked, chunks, stop, after, answers, ?_⟩
  have first : Bytes.clip (store.buffer id).bytes.length offset = offset :=
    Bytes.clip_of_le (by omega)
  have last : Bytes.clip (store.buffer id).bytes.length (offset + length : Nat) = offset + length :=
    Bytes.clip_of_le inside
  simp only [readInto, first, ← Int.natCast_add, last, Nat.add_sub_cancel_left, Int.toNat_natCast]
  rw [show (store.buffer id).bytes = original from rfl, filling]
  simp only [Attempt.map, put]

theorem readInto_memory_of_inside {target : Buffer} {content : Content} {position : Nat}
    (inside : offset + length ≤ target.bytes.length)
    (enough : position + length ≤ (content.bytes store).length) (shared : Option BufferId) :
    let data := ((content.bytes store).drop position).take length
    (memory content position).readInto store shared target offset length
      = { state :=
            (memory content (position + length : Nat),
              { target with
                bytes := target.bytes.take offset ++ data
                  ++ target.bytes.drop (offset + data.length) }) } := by
  intro data
  have whole : data.length = length := by
    rw [List.length_take, List.length_drop]
    omega
  have left : ¬(length : Int) > remaining store content position := by
    simp only [remaining]
    omega
  have read : (content.bytes store).slice position (position + length : Nat) = data :=
    Bytes.slice_of_le enough
  have spliced := @Buffer.splice_of_le target offset data (by omega)
  rw [whole] at spliced ⊢
  simp only [readInto, if_neg left, ← Int.natCast_add, read, spliced]

end Source

namespace Session

/-- What a session is after a read that has kept the size of the buffer. -/
theorem readBytes_of_readInto {session : Session} {name buffer : Text} {source changed : Source}
    {id : BufferId} (found : session.object? name = some (.source source))
    (held : session.object? buffer = some (.buffer id)) {offset length : Int} {bytes : Bytes}
    {fault : Option Fault}
    (read : source.readInto session.store (some id) (session.store.buffer id) offset length
      = { state := (changed, { session.store.buffer id with bytes }), fault })
    (size : bytes.length = (session.store.buffer id).bytes.length) :
    let answer := session.step (.readBytes name buffer offset length)
    answer.outcome = outcomeOf fault ∧ (answer.session.store.buffer id).bytes = bytes ∧
      answer.session.object? name = some (.source changed) := by
  simp only [step, readBytes, found, held, read, object?_setObject_self, and_true, true_and]
  exact Store.bytes_setBuffer_self size

/--
A read from a stream asks it for what is missing until it has all bytes, or an answer has none. The
range then holds what it gave, at its front, and nothing else of the buffer has changed; the stream
is as much further on, and says why there is no more. If it does not read from the buffer itself,
these are its next bytes, and a source in memory with the same bytes left fills the range alike.
-/
theorem readBytes_reassembles (session : Session) {name buffer : Text} {input : Input}
    {id : BufferId} (found : session.object? name = some (.source (.stream input)))
    (held : session.object? buffer = some (.buffer id)) {offset length : Nat}
    (inside : offset + length ≤ (session.store.buffer id).bytes.length) :
    let original := (session.store.buffer id).bytes
    let holding (data : Bytes) : Bytes :=
      original.take offset ++ data ++ original.drop (offset + data.length)
    let answer := session.step (.readBytes name buffer offset length)
    ∃ asked chunks stop after,
      input.Answers (fun given => session.store.refresh id (holding given)) [] length asked chunks
          stop after ∧
        let data := chunks.flatten
        asked.length ≤ length ∧
          (∀ index < asked.length,
            asked[index]? = some (length - (chunks.take index).flatten.length)) ∧
          after.requests? = input.requests?.map (· ++ asked) ∧
          data.length ≤ length ∧
          (answer.session.store.buffer id).bytes = holding data ∧
          answer.session.object? name = some (.source (.stream after)) ∧
          after.position = input.position + data.length ∧
          (answer.outcome = .done ↔ data.length = length) ∧
          (stop = some (.ok []) → answer.outcome = .failed (.streamEnded data.length length)) ∧
          (∀ fault, stop = some (.error fault) → answer.outcome = .failed fault) ∧
          (input.origin.Avoids (some (.buffer id)) →
            data <+: input.upcoming session.store ∧
              (data.length = length → ∀ (other : Text) (content : Content) (position : Nat),
                session.object? other = some (.source (.memory content position)) →
                position ≤ (content.bytes session.store).length →
                (content.bytes session.store).drop position = input.upcoming session.store →
                let copied := session.step (.readBytes other buffer offset length)
                copied.outcome = .done ∧
                  (copied.session.store.buffer id).bytes = holding data)) := by
  intro original holding answer
  rcases Source.readInto_stream_answers inside input with
      ⟨asked, chunks, stop, after, answers, read⟩
  rcases answers.length_flatten with ⟨within, complete⟩
  refine ⟨asked, chunks, stop, after, answers, ?_⟩
  intro data
  have size : (holding data).length = original.length := by
    change data.length ≤ length at within
    change offset + length ≤ original.length at inside
    simp only [holding, List.length_append, List.length_take, List.length_drop]
    omega
  rcases readBytes_of_readInto found held read size with ⟨outcome, bytes, later⟩
  change answer.outcome = outcomeOf (Input.shortfall data.length length stop) at outcome
  refine ⟨answers.length_asked_le, fun index less => answers.asked_eq less, answers.gave.requests,
    within, bytes, later, answers.gave.position, ?_, ?_, ?_, ?_⟩
  · rw [outcome, ← complete]
    rcases stop with _ | _ | _ <;> simp [Input.shortfall, outcomeOf]
  · rintro rfl
    exact outcome
  · rintro fault rfl
    exact outcome
  · intro avoids
    have steady (given : Bytes) :
        input.origin.bytes (session.store.refresh id (holding given))
          = input.origin.bytes session.store := by
      apply Origin.bytes_eq_of_avoids avoids
      rintro (other | location) elsewhere
      · have different : other ≠ id := by
          rintro rfl
          exact elsewhere rfl
        simp only [Place.bytes, Store.refresh, Store.buffer_setBuffer_of_ne different]
      · rfl
    have next := answers.flatten_prefix steady
    refine ⟨next, ?_⟩
    intro full other content position origin low same copied
    have enough : length ≤ ((content.bytes session.store).drop position).length := by
      rw [same, ← full]
      exact next.length_le
    have first : ((content.bytes session.store).drop position).take length = data := by
      rw [same, ← full]
      exact (List.prefix_iff_eq_take.mp next).symm
    rw [List.length_drop] at enough
    have alike := @Source.readInto_memory_of_inside session.store offset length
      (session.store.buffer id) content position inside (by omega) (some id)
    rw [first] at alike
    rcases readBytes_of_readInto origin held alike size with ⟨success, bytes, -⟩
    exact ⟨success, bytes⟩

/-- A stream that gives one byte, two bytes and then none, where four are wanted. -/
theorem readBytes_reassembles_trickle :
    let name := Text.ofString "source"
    let buffer := Text.ofString "buffer"
    let device : Reader :=
      { data := .own [1, 2, 3, 4, 5], replies := [.give (some 1), .give (some 2), .nothing] }
    let session : Session :=
      { store := { buffers := [{ bytes := [9, 9, 9, 9, 9, 9] }] }
        objects := [(name, .source (.stream (.reader device))), (buffer, .buffer 0)] }
    let answer := session.step (.readBytes name buffer 1 4)
    (answer.session.store.buffer 0).bytes = [9, 1, 2, 3, 9, 9] ∧
      answer.outcome = .failed (.streamEnded 3 4) := by
  intro name buffer device session answer
  have found : session.object? name = some (.source (.stream (.reader device))) := rfl
  have held : session.object? buffer = some (.buffer 0) := rfl
  rcases readBytes_reassembles session found held (show 1 + 4 ≤ 6 by decide) with
      ⟨asked, chunks, stop, after, answers, -, -, -, -, bytes, -, -, -, ended, -, -⟩
  rcases answers.unique (.chunk (List.cons_ne_nil 1 []) (by decide) rfl
    (.chunk (List.cons_ne_nil 2 [3]) (by decide) rfl (.ended (by decide) rfl))) with
      ⟨rfl, rfl, rfl, rfl⟩
  exact ⟨bytes, ended rfl⟩

end Session

end IndexWire
