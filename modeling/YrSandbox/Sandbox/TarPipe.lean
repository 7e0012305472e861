import YrSandbox.Foundation.Chunk
import YrSandbox.Foundation.Pipe
import YrSandbox.Foundation.Transition
import YrSandbox.Python.Url

/-! # A directory as a stream of tar bytes

`_tar_directory_chunks`: a thread writes the archive into a pipe while the generator yields
what it reads there. Either of them goes on at its own pace, and the caller of the generator
can give it up at any chunk. -/

namespace YrSandbox.TarPipe

open Python Transition

/-- What `tarfile` writes for the directory, and what it raises then. -/
structure Archive where
  content : Bytes
  failure : Option Text
deriving DecidableEq, Repr

inductive ProducerError
  | brokenPipe
  | archiving (message : Text)
deriving DecidableEq, Repr

/-- The thread that runs `produce_tar`. -/
inductive Producer
  | writing (rest : Bytes)
  | leaving (error : Option ProducerError) -- behind the `with` that closes the write end
  | finished
deriving DecidableEq, Repr

inductive Outcome
  | returned
  | raised (error : ProducerError)
  | closed -- `GeneratorExit`
deriving DecidableEq, Repr

inductive Consumer
  | reading (gathered : Bytes) -- in `reader.read(chunk_size)`
  | suspended -- at `yield chunk`
  | joining (ended : Bool) -- in `producer.join()`, `ended` behind the `break`
  | done (outcome : Outcome)
deriving DecidableEq, Repr

structure Sizes where
  chunkSize : Nat
  capacity : Nat -- what the pipe and the buffer of its reader hold
  chunkPositive : 0 < chunkSize
  capacityPositive : 0 < capacity

structure State (sizes : Sizes) where
  producer : Producer
  pipe : Pipe UInt8 sizes.capacity
  consumer : Consumer
  errors : List ProducerError
  yielded : List Bytes

inductive Event
  -- the thread
  | write (count : Nat)
  | refused -- there is no reader any more
  | leave
  | record
  -- the generator
  | read (count : Nat)
  | chunk
  | join
  -- its caller
  | next
  | close
deriving DecidableEq, Repr

def Event.ofCaller : Event → Bool
  | .next | .close => true
  | _ => false

variable (archive : Archive) {sizes : Sizes}

def start : State sizes where
  producer := .writing archive.content
  pipe := .fresh
  consumer := .reading []
  errors := []
  yielded := []

/-- What the generator does behind `producer.join()`. -/
def outcome (ended : Bool) (errors : List ProducerError) : Outcome :=
  if ended then
    match errors with
    | [] => .returned
    | error :: _ => .raised error
  else .closed

def step : Step (State sizes) Event := fun state event =>
  match event, state.producer, state.consumer with
  | .write count, .writing rest, _ =>
      if fits : (rest.take count).length ≤ state.pipe.room then
        if state.pipe.readable = true ∧ 0 < count ∧ count ≤ rest.length then
          some { state with
            producer := .writing (rest.drop count)
            pipe := state.pipe.push (rest.take count) fits }
        else none
      else none
  | .refused, .writing rest, _ =>
      if state.pipe.readable = false ∧ rest ≠ [] then
        some { state with
          producer := .leaving (some .brokenPipe)
          pipe := state.pipe.closeWriter }
      else none
  | .leave, .writing rest, _ =>
      if rest = [] then
        some { state with
          producer := .leaving (archive.failure.map .archiving)
          pipe := state.pipe.closeWriter }
      else none
  | .record, .leaving error, _ =>
      some { state with producer := .finished, errors := state.errors ++ error.toList }
  | .read count, _, .reading gathered =>
      if 0 < count ∧ count ≤ state.pipe.content.length ∧
          gathered.length + count ≤ sizes.chunkSize then
        some { state with
          consumer := .reading (gathered ++ state.pipe.content.take count)
          pipe := state.pipe.pull count }
      else none
  | .chunk, _, .reading gathered =>
      -- `read` returns fewer bytes than it is asked for only at the end
      if gathered.length = sizes.chunkSize ∨ state.pipe.AtEnd then
        if gathered = [] then
          some { state with consumer := .joining true, pipe := state.pipe.closeReader }
        else
          some { state with
            consumer := .suspended
            yielded := state.yielded ++ [gathered] }
      else none
  | .join, .finished, .joining ended =>
      some { state with consumer := .done (outcome ended state.errors) }
  | .next, _, .suspended => some { state with consumer := .reading [] }
  | .close, _, .suspended =>
      some { state with consumer := .joining false, pipe := state.pipe.closeReader }
  | _, _, _ => none

inductive Moves : State sizes → Event → State sizes → Prop
  | write {rest pipe consumer errors yielded count}
      (fits : (rest.take count).length ≤ pipe.room)
      (possible : pipe.readable = true ∧ 0 < count ∧ count ≤ rest.length) :
      Moves ⟨.writing rest, pipe, consumer, errors, yielded⟩ (.write count)
        ⟨.writing (rest.drop count), pipe.push (rest.take count) fits, consumer, errors,
          yielded⟩
  | refused {rest pipe consumer errors yielded}
      (broken : pipe.readable = false ∧ rest ≠ []) :
      Moves ⟨.writing rest, pipe, consumer, errors, yielded⟩ .refused
        ⟨.leaving (some .brokenPipe), pipe.closeWriter, consumer, errors, yielded⟩
  | leave {pipe consumer errors yielded} :
      Moves ⟨.writing [], pipe, consumer, errors, yielded⟩ .leave
        ⟨.leaving (archive.failure.map .archiving), pipe.closeWriter, consumer, errors,
          yielded⟩
  | record {error pipe consumer errors yielded} :
      Moves ⟨.leaving error, pipe, consumer, errors, yielded⟩ .record
        ⟨.finished, pipe, consumer, errors ++ error.toList, yielded⟩
  | read {producer pipe gathered errors yielded count}
      (possible : 0 < count ∧ count ≤ pipe.content.length ∧
        gathered.length + count ≤ sizes.chunkSize) :
      Moves ⟨producer, pipe, .reading gathered, errors, yielded⟩ (.read count)
        ⟨producer, pipe.pull count, .reading (gathered ++ pipe.content.take count), errors,
          yielded⟩
  | finish {producer pipe errors yielded}
      (returns : 0 = sizes.chunkSize ∨ pipe.AtEnd) :
      Moves ⟨producer, pipe, .reading [], errors, yielded⟩ .chunk
        ⟨producer, pipe.closeReader, .joining true, errors, yielded⟩
  | chunk {producer pipe gathered errors yielded}
      (returns : gathered.length = sizes.chunkSize ∨ pipe.AtEnd)
      (nonempty : gathered ≠ []) :
      Moves ⟨producer, pipe, .reading gathered, errors, yielded⟩ .chunk
        ⟨producer, pipe, .suspended, errors, yielded ++ [gathered]⟩
  | join {pipe ended errors yielded} :
      Moves ⟨.finished, pipe, .joining ended, errors, yielded⟩ .join
        ⟨.finished, pipe, .done (outcome ended errors), errors, yielded⟩
  | next {producer pipe errors yielded} :
      Moves ⟨producer, pipe, .suspended, errors, yielded⟩ .next
        ⟨producer, pipe, .reading [], errors, yielded⟩
  | close {producer pipe errors yielded} :
      Moves ⟨producer, pipe, .suspended, errors, yielded⟩ .close
        ⟨producer, pipe.closeReader, .joining false, errors, yielded⟩

section

variable {archive} {state next : State sizes}

theorem Moves.step_eq {event : Event} (moves : Moves archive state event next) :
    step archive state event = some next := by
  cases moves with
  | write fits possible => exact (dif_pos fits).trans (if_pos possible)
  | refused broken => exact if_pos broken
  | leave => rfl
  | record => rfl
  | @read producer pipe gathered errors yielded count possible =>
      cases producer <;> exact if_pos possible
  | @finish producer pipe errors yielded returns =>
      cases producer <;> exact if_pos returns
  | @chunk producer pipe gathered errors yielded returns nonempty =>
      cases producer <;> exact (if_pos returns).trans (if_neg nonempty)
  | join => rfl
  | @next producer pipe errors yielded => cases producer <;> rfl
  | @close producer pipe errors yielded => cases producer <;> rfl

theorem moves_of_step {event : Event} (stepped : step archive state event = some next) :
    Moves archive state event next := by
  rcases state with ⟨producer, pipe, consumer, errors, yielded⟩
  cases event with
  | write count =>
      cases producer with
      | leaving error => cases stepped
      | finished => cases stepped
      | writing rest =>
          simp only [step] at stepped
          split at stepped
          · rename_i fits
            split at stepped
            · rename_i possible
              cases stepped
              exact .write fits possible
            · cases stepped
          · cases stepped
  | refused =>
      cases producer with
      | leaving error => cases stepped
      | finished => cases stepped
      | writing rest =>
          simp only [step] at stepped
          split at stepped
          · rename_i broken
            cases stepped
            exact .refused broken
          · cases stepped
  | leave =>
      cases producer with
      | leaving error => cases stepped
      | finished => cases stepped
      | writing rest =>
          simp only [step] at stepped
          split at stepped
          · rename_i empty
            subst empty
            cases stepped
            exact .leave
          · cases stepped
  | record =>
      cases producer <;> cases stepped
      exact .record
  | read count =>
      cases consumer with
      | suspended => cases producer <;> cases stepped
      | joining ended => cases producer <;> cases stepped
      | done result => cases producer <;> cases stepped
      | reading gathered =>
          simp only [step] at stepped
          split at stepped
          · rename_i possible
            cases stepped
            exact .read possible
          · cases stepped
  | chunk =>
      cases consumer with
      | suspended => cases producer <;> cases stepped
      | joining ended => cases producer <;> cases stepped
      | done result => cases producer <;> cases stepped
      | reading gathered =>
          simp only [step] at stepped
          split at stepped
          · rename_i returns
            split at stepped
            · rename_i empty
              subst empty
              cases stepped
              exact .finish returns
            · rename_i nonempty
              cases stepped
              exact .chunk returns nonempty
          · cases stepped
  | join =>
      cases producer <;> cases consumer <;> cases stepped
      exact .join
  | next =>
      cases producer <;> cases consumer <;> cases stepped <;> exact .next
  | close =>
      cases producer <;> cases consumer <;> cases stepped <;> exact .close

end

/-! ## What each party knows -/

def Producer.rest : Producer → Bytes
  | .writing rest => rest
  | .leaving _ | .finished => []

def Consumer.gathered : Consumer → Bytes
  | .reading gathered => gathered
  | .suspended | .joining _ | .done _ => []

/-- The generator is inside of its `with`. -/
def Consumer.reads : Consumer → Bool
  | .reading _ | .suspended => true
  | .joining _ | .done _ => false

def State.remaining (state : State sizes) : Bytes :=
  state.consumer.gathered ++ state.pipe.content ++ state.producer.rest

/-- What the thread raised, once it has left the `with`. -/
def State.error? (state : State sizes) : Option ProducerError :=
  match state.producer with
  | .writing _ => none
  | .leaving error => error
  | .finished => state.errors.head?

/-- The whole archive is yielded, and what the thread raised is what `tarfile` raised. -/
structure Complete (state : State sizes) : Prop where
  written : state.pipe.writable = false
  yielded : state.yielded = cut sizes.chunkSize archive.content
  error : state.error? = archive.failure.map .archiving

structure Invariant (state : State sizes) : Prop where
  writable : state.pipe.writable = true ↔ ∃ rest, state.producer = .writing rest
  readable : state.pipe.readable = state.consumer.reads
  recorded : state.producer ≠ .finished → state.errors = []
  size : state.consumer.gathered.length ≤ sizes.chunkSize
  pieces : state.consumer.reads = true →
    cut sizes.chunkSize archive.content =
      state.yielded ++ cut sizes.chunkSize state.remaining
  error : state.consumer.reads = true → state.pipe.writable = false →
    state.error? = archive.failure.map .archiving
  partly : state.yielded <+: cut sizes.chunkSize archive.content
  ended : state.consumer = .joining true → Complete archive state
  finished : ∀ result, state.consumer = .done result →
    state.producer = .finished ∧
      (result = .closed ∨ Complete archive state ∧ result = outcome true state.errors)

namespace Invariant

variable {archive} {state next : State sizes}

theorem start : Invariant archive (start archive : State sizes) where
  writable := ⟨fun _ => ⟨_, rfl⟩, fun _ => rfl⟩
  readable := rfl
  recorded _ := rfl
  size := Nat.zero_le _
  pieces _ := rfl
  error _ closed := nomatch closed
  partly := List.nil_prefix
  ended := nofun
  finished := nofun

theorem rest_of_closed (invariant : Invariant archive state)
    (closed : state.pipe.writable = false) : state.producer.rest = [] := by
  cases moves : state.producer with
  | writing rest =>
      exact absurd (closed.symm.trans (invariant.writable.mpr ⟨rest, moves⟩)) nofun
  | leaving error => rfl
  | finished => rfl

theorem of_writing (invariant : Invariant archive state) {rest : Bytes}
    (writes : state.producer = .writing rest) :
    state.pipe.writable = true ∧ state.consumer ≠ .joining true ∧
      ∀ result, state.consumer ≠ .done result := by
  have writable := invariant.writable.mpr ⟨rest, writes⟩
  refine ⟨writable, ?_, ?_⟩
  · intro joins
    exact absurd ((invariant.ended joins).written.symm.trans writable) nofun
  · intro result isDone
    exact absurd (writes.symm.trans (invariant.finished result isDone).1) nofun

variable {producer : Producer} {pipe : Pipe UInt8 sizes.capacity} {consumer : Consumer}
variable {errors : List ProducerError} {yielded : List Bytes} {rest gathered : Bytes}
variable {count : Nat}

theorem write
    (invariant : Invariant archive ⟨.writing rest, pipe, consumer, errors, yielded⟩)
    (fits : (rest.take count).length ≤ pipe.room) :
    Invariant archive
      ⟨.writing (rest.drop count), pipe.push (rest.take count) fits, consumer, errors,
        yielded⟩ := by
  rcases invariant.of_writing rfl with ⟨writable, notEnded, notDone⟩
  constructor
  · exact ⟨fun _ => ⟨_, rfl⟩, fun _ => writable⟩
  · exact invariant.readable
  · exact fun _ => invariant.recorded nofun
  · exact invariant.size
  · intro reads
    have pieces := invariant.pieces reads
    simpa [State.remaining, Pipe.push, Producer.rest] using pieces
  · exact fun _ closed => absurd (closed.symm.trans writable) nofun
  · exact invariant.partly
  · exact fun joins => absurd joins notEnded
  · exact fun result isDone => absurd isDone (notDone result)

theorem refused
    (invariant : Invariant archive ⟨.writing rest, pipe, consumer, errors, yielded⟩)
    (broken : pipe.readable = false) :
    Invariant archive
      ⟨.leaving (some .brokenPipe), pipe.closeWriter, consumer, errors, yielded⟩ := by
  rcases invariant.of_writing rfl with ⟨-, notEnded, notDone⟩
  have unread : consumer.reads = false := invariant.readable.symm.trans broken
  constructor
  · exact ⟨nofun, nofun⟩
  · exact invariant.readable
  · exact fun _ => invariant.recorded nofun
  · exact invariant.size
  · exact fun reads => absurd (unread.symm.trans reads) nofun
  · exact fun reads => absurd (unread.symm.trans reads) nofun
  · exact invariant.partly
  · exact fun joins => absurd joins notEnded
  · exact fun result isDone => absurd isDone (notDone result)

theorem leave
    (invariant : Invariant archive ⟨.writing [], pipe, consumer, errors, yielded⟩) :
    Invariant archive
      ⟨.leaving (archive.failure.map .archiving), pipe.closeWriter, consumer, errors,
        yielded⟩ := by
  rcases invariant.of_writing rfl with ⟨-, notEnded, notDone⟩
  constructor
  · exact ⟨nofun, nofun⟩
  · exact invariant.readable
  · exact fun _ => invariant.recorded nofun
  · exact invariant.size
  · exact invariant.pieces
  · exact fun _ _ => rfl
  · exact invariant.partly
  · exact fun joins => absurd joins notEnded
  · exact fun result isDone => absurd isDone (notDone result)

theorem record {error : Option ProducerError}
    (invariant : Invariant archive ⟨.leaving error, pipe, consumer, errors, yielded⟩) :
    Invariant archive ⟨.finished, pipe, consumer, errors ++ error.toList, yielded⟩ := by
  have nothing : errors = [] := invariant.recorded nofun
  subst nothing
  have closed : pipe.writable = false := by
    cases writable : pipe.writable with
    | false => rfl
    | true => exact nomatch invariant.writable.mp writable
  have same : ([] ++ error.toList).head? = error := by
    cases error <;> rfl
  constructor
  · exact ⟨fun writable => absurd (closed.symm.trans writable) nofun, nofun⟩
  · exact invariant.readable
  · exact fun unfinished => absurd rfl unfinished
  · exact invariant.size
  · exact invariant.pieces
  · exact fun reads _ => same.trans (invariant.error reads closed)
  · exact invariant.partly
  · intro joins
    rcases invariant.ended joins with ⟨written, yielded, raised⟩
    exact ⟨written, yielded, same.trans raised⟩
  · intro result isDone
    exact absurd (invariant.finished result isDone).1 nofun

theorem read
    (invariant : Invariant archive ⟨producer, pipe, .reading gathered, errors, yielded⟩)
    (possible : 0 < count ∧ count ≤ pipe.content.length ∧
      gathered.length + count ≤ sizes.chunkSize) :
    Invariant archive
      ⟨producer, pipe.pull count, .reading (gathered ++ pipe.content.take count), errors,
        yielded⟩ := by
  constructor
  · exact invariant.writable
  · exact invariant.readable
  · exact invariant.recorded
  · change (gathered ++ pipe.content.take count).length ≤ sizes.chunkSize
    rw [List.length_append, List.length_take]
    omega
  · intro reads
    have pieces := invariant.pieces rfl
    simpa [State.remaining, Pipe.pull, Consumer.gathered] using pieces
  · exact fun _ => invariant.error rfl
  · exact invariant.partly
  · exact nofun
  · exact nofun

theorem finish
    (invariant : Invariant archive ⟨producer, pipe, .reading [], errors, yielded⟩)
    (atEnd : pipe.AtEnd) :
    Invariant archive ⟨producer, pipe.closeReader, .joining true, errors, yielded⟩ := by
  have nothing : pipe.content ++ producer.rest = [] := by
    rw [atEnd.1, invariant.rest_of_closed atEnd.2]
    rfl
  have all : yielded = cut sizes.chunkSize archive.content := by
    rw [invariant.pieces rfl, State.remaining, Consumer.gathered, List.nil_append, nothing,
      cut_nil sizes.chunkPositive, List.append_nil]
  constructor
  · exact invariant.writable
  · rfl
  · exact invariant.recorded
  · exact Nat.zero_le _
  · exact nofun
  · exact nofun
  · exact invariant.partly
  · exact fun _ => ⟨atEnd.2, all, invariant.error rfl atEnd.2⟩
  · exact nofun

theorem chunk
    (invariant : Invariant archive ⟨producer, pipe, .reading gathered, errors, yielded⟩)
    (returns : gathered.length = sizes.chunkSize ∨ pipe.AtEnd) (nonempty : gathered ≠ []) :
    Invariant archive ⟨producer, pipe, .suspended, errors, yielded ++ [gathered]⟩ := by
  have front : cut sizes.chunkSize (gathered ++ (pipe.content ++ producer.rest)) =
      gathered :: cut sizes.chunkSize (pipe.content ++ producer.rest) := by
    rcases returns with full | atEnd
    · exact cut_append sizes.chunkPositive full _
    · rw [atEnd.1, invariant.rest_of_closed atEnd.2, List.append_nil,
        List.append_nil, cut_of_length_le nonempty invariant.size,
        cut_nil sizes.chunkPositive]
  have further : cut sizes.chunkSize archive.content =
      (yielded ++ [gathered]) ++
        cut sizes.chunkSize (pipe.content ++ producer.rest) := by
    rw [invariant.pieces rfl, State.remaining, Consumer.gathered, List.append_assoc gathered,
      front, List.append_cons]
  constructor
  · exact invariant.writable
  · exact invariant.readable
  · exact invariant.recorded
  · exact Nat.zero_le _
  · exact fun _ => further
  · exact fun _ => invariant.error rfl
  · exact ⟨_, further.symm⟩
  · exact nofun
  · exact nofun

theorem join {ended : Bool}
    (invariant : Invariant archive ⟨.finished, pipe, .joining ended, errors, yielded⟩) :
    Invariant archive
      ⟨.finished, pipe, .done (outcome ended errors), errors, yielded⟩ := by
  constructor
  · exact invariant.writable
  · exact invariant.readable
  · exact invariant.recorded
  · exact invariant.size
  · exact nofun
  · exact nofun
  · exact invariant.partly
  · exact nofun
  · intro result isDone
    cases isDone
    cases ended with
    | false => exact ⟨rfl, .inl rfl⟩
    | true =>
        rcases invariant.ended rfl with ⟨written, yielded, raised⟩
        exact ⟨rfl, .inr ⟨⟨written, yielded, raised⟩, rfl⟩⟩

theorem resume
    (invariant : Invariant archive ⟨producer, pipe, .suspended, errors, yielded⟩) :
    Invariant archive ⟨producer, pipe, .reading [], errors, yielded⟩ := by
  constructor
  · exact invariant.writable
  · exact invariant.readable
  · exact invariant.recorded
  · exact invariant.size
  · exact invariant.pieces
  · exact invariant.error
  · exact invariant.partly
  · exact nofun
  · exact nofun

theorem close
    (invariant : Invariant archive ⟨producer, pipe, .suspended, errors, yielded⟩) :
    Invariant archive ⟨producer, pipe.closeReader, .joining false, errors, yielded⟩ := by
  constructor
  · exact invariant.writable
  · rfl
  · exact invariant.recorded
  · exact invariant.size
  · exact nofun
  · exact nofun
  · exact invariant.partly
  · exact nofun
  · exact nofun

theorem step (invariant : Invariant archive state) {event : Event}
    (stepped : step archive state event = some next) : Invariant archive next := by
  cases moves_of_step stepped with
  | write fits possible => exact invariant.write fits
  | refused broken => exact invariant.refused broken.1
  | leave => exact invariant.leave
  | record => exact invariant.record
  | read possible => exact invariant.read possible
  | finish returns =>
      rcases returns with full | atEnd
      · exact absurd full (Nat.ne_of_lt sizes.chunkPositive)
      · exact invariant.finish atEnd
  | chunk returns nonempty => exact invariant.chunk returns nonempty
  | join => exact invariant.join
  | next => exact invariant.resume
  | close => exact invariant.close

end Invariant

/-! ## Nobody waits for ever -/

def Producer.weight : Producer → Nat
  | .writing rest => 5 * rest.length + 2
  | .leaving _ => 1
  | .finished => 0

def Consumer.weight : Consumer → Nat
  | .reading gathered => 3 * gathered.length + 2
  | .suspended => 3
  | .joining _ => 1
  | .done _ => 0

def State.weight (state : State sizes) : Nat :=
  state.producer.weight + 4 * state.pipe.content.length + state.consumer.weight

variable {archive} {state next : State sizes}

theorem weight_of_step {event : Event} (stepped : step archive state event = some next) :
    next.weight < state.weight := by
  cases moves_of_step stepped with
  | write fits possible =>
      simp only [State.weight, Producer.weight, Pipe.push, List.length_append,
        List.length_take, List.length_drop]
      omega
  | refused broken =>
      simp only [State.weight, Producer.weight, Pipe.closeWriter]
      omega
  | leave =>
      simp only [State.weight, Producer.weight, Pipe.closeWriter]
      omega
  | record =>
      simp only [State.weight, Producer.weight]
      omega
  | read possible =>
      simp only [State.weight, Consumer.weight, Pipe.pull, List.length_append,
        List.length_take, List.length_drop]
      omega
  | finish returns =>
      simp only [State.weight, Consumer.weight, Pipe.closeReader]
      omega
  | chunk returns nonempty =>
      have positive := List.length_pos_iff.mpr nonempty
      simp only [State.weight, Consumer.weight]
      omega
  | join =>
      simp only [State.weight, Consumer.weight]
      omega
  | next =>
      simp only [State.weight, Consumer.weight, List.length_nil]
      omega
  | close =>
      simp only [State.weight, Consumer.weight, Pipe.closeReader]
      omega

theorem thread_enabled (unfinished : state.producer ≠ .finished)
    (possible : state.pipe.readable = true → 0 < state.pipe.room) :
    ∃ event, event.ofCaller = false ∧ (step archive state event).isSome = true := by
  rcases state with ⟨producer, pipe, consumer, errors, yielded⟩
  cases producer with
  | finished => exact absurd rfl unfinished
  | leaving error => exact ⟨.record, rfl, rfl⟩
  | writing rest =>
      cases rest with
      | nil => exact ⟨.leave, rfl, rfl⟩
      | cons byte rest =>
          cases readable : pipe.readable with
          | false =>
              refine ⟨.refused, rfl, ?_⟩
              simp [step, readable]
          | true =>
              have room := possible readable
              refine ⟨.write 1, rfl, ?_⟩
              have fits : ((byte :: rest).take 1).length ≤ pipe.room := room
              simp only [step, fits, readable, dif_pos, List.length_cons]
              simp

theorem enabled (invariant : Invariant archive state)
    (undone : ∀ result, state.consumer ≠ .done result)
    (unsuspended : state.consumer ≠ .suspended) :
    ∃ event, event.ofCaller = false ∧ (step archive state event).isSome = true := by
  cases waits : state.consumer with
  | done result => exact absurd waits (undone result)
  | suspended => exact absurd waits unsuspended
  | joining ended =>
      cases runs : state.producer with
      | finished =>
          refine ⟨.join, rfl, ?_⟩
          simp [step, runs, waits]
      | writing rest =>
          have unread := invariant.readable
          rw [waits] at unread
          exact thread_enabled (by simp [runs])
            fun readable => absurd (unread.symm.trans readable) nofun
      | leaving error =>
          have unread := invariant.readable
          rw [waits] at unread
          exact thread_enabled (by simp [runs])
            fun readable => absurd (unread.symm.trans readable) nofun
  | reading gathered =>
      by_cases full : gathered.length = sizes.chunkSize
      · refine ⟨.chunk, rfl, ?_⟩
        simp only [step, waits, full, true_or, if_true]
        split <;> rfl
      · have size := invariant.size
        rw [waits, Consumer.gathered] at size
        by_cases empty : state.pipe.content = []
        · cases writable : state.pipe.writable with
          | true =>
              rcases invariant.writable.mp writable with ⟨rest, writes⟩
              refine thread_enabled (by simp [writes]) fun _ => ?_
              rw [state.pipe.room_of_empty empty]
              exact sizes.capacityPositive
          | false =>
              refine ⟨.chunk, rfl, ?_⟩
              have atEnd : state.pipe.AtEnd := ⟨empty, writable⟩
              simp only [step, waits, atEnd, or_true, if_true]
              split <;> rfl
        · have positive := List.length_pos_iff.mpr empty
          have possible : 0 < 1 ∧ 1 ≤ state.pipe.content.length ∧
              gathered.length + 1 ≤ sizes.chunkSize := by omega
          refine ⟨.read 1, rfl, ?_⟩
          simp [step, waits, possible]

/-- However the thread and the generator are interleaved: the chunks are those of the
archive, a generator that ends has yielded all of them and raises what `tarfile` raised, it
never ends before its thread, and it cannot wait for ever. -/
theorem tarDirectoryChunks_of_run {archive : Archive} {sizes : Sizes}
    {final : State sizes} {events : List Event}
    (ran : run (step archive) (start archive) events = some final) :
    final.yielded <+: cut sizes.chunkSize archive.content ∧
      (∀ result, final.consumer = .done result →
        final.producer = .finished ∧
          final.pipe.writable = false ∧ final.pipe.readable = false ∧
          (result = .closed ∨
            final.yielded = cut sizes.chunkSize archive.content ∧
              result = outcome true (archive.failure.map .archiving).toList)) ∧
      ((∀ result, final.consumer ≠ .done result) → final.consumer ≠ .suspended →
        ∃ event, event.ofCaller = false ∧ (step archive final event).isSome = true) ∧
      events.length ≤ 5 * archive.content.length + 4 := by
  have invariant : Invariant archive final :=
    invariant_of_run (Invariant archive) (fun _ _ _ holds => holds.step) .start ran
  refine ⟨invariant.partly, ?_, enabled invariant, ?_⟩
  · intro result isDone
    rcases invariant.finished result isDone with ⟨finished, ends⟩
    refine ⟨finished, ?_, ?_, ?_⟩
    · cases writable : final.pipe.writable with
      | false => rfl
      | true =>
          rcases invariant.writable.mp writable with ⟨rest, writes⟩
          exact absurd (finished.symm.trans writes) nofun
    · rw [invariant.readable, isDone]
      rfl
    · rcases ends with closed | ⟨complete, rfl⟩
      · exact .inl closed
      · have raised := complete.error
        rw [State.error?, finished] at raised
        refine .inr ⟨complete.yielded, ?_⟩
        rw [← raised]
        cases final.errors <;> rfl
  · have bounded := length_le_of_run (fun _ => True) State.weight
      (fun _ _ _ _ _ => trivial) (fun _ _ _ _ => weight_of_step) trivial ran
    have initial : (start archive : State sizes).weight =
        5 * archive.content.length + 4 := rfl
    omega

/-- Five bytes and then a file that cannot be read, in chunks of two. -/
theorem tarDirectoryChunks_of_run_unreadable :
    (after (step ⟨[1, 2, 3, 4, 5], some ['x']⟩)
      (start ⟨[1, 2, 3, 4, 5], some ['x']⟩ : State ⟨2, 3, by decide, by decide⟩)
      [.write 3, .read 2, .write 2, .chunk, .next, .read 1, .leave, .read 1, .chunk, .next,
        .read 1, .chunk, .record, .next, .chunk, .join]).yielded <+:
      cut 2 [1, 2, 3, 4, 5] :=
  (tarDirectoryChunks_of_run (run_eq_after (by decide))).1

end YrSandbox.TarPipe
