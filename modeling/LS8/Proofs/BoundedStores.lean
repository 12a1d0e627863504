import Mathlib.Data.List.Induction
import LS8.Memory
import LS8.Registers

namespace LS8

/-!
# Bounded stores

The memory and the registers are stores: each has a fixed number of places, and
a place holds the byte that was put there last. The calls on a store
(`StoreCall`) name places by numbers of any size, so that some of them are
refused.

What a store replies is known from the calls before, and the store itself does
not come into it: `remembered` is what they have left in a place, and
`StoreCall.reply` is what a call finds there. A state that keeps to this at each
call (`IsStore`) keeps to it in every sequence of calls (`IsStore.replies_eq`),
and both the memory and the registers do (`stores_remember`). The stack pointer
is one more name for a register.
-/

/-- A call on a store, with places by their numbers. -/
inductive StoreCall where
  | read (place : Nat)
  /-- A read that finds zero where there is no place. -/
  | peek (place : Nat)
  | write (place : Nat) (value : UInt8)
  /-- Put values in the first places, in order. -/
  | load (values : List UInt8)
  deriving Repr

/-- What is returned to a call. -/
inductive Reply where
  | value (value : UInt8)
  | done
  | refused (error : AccessError)
  deriving Repr, DecidableEq

namespace StoreCall

variable {size : Nat}

/-- The byte that a call puts in a place, if it puts one there. -/
def put? (place : Fin size) : StoreCall → Option UInt8
  | .read _ | .peek _ => none
  | .write other value => if other = place then some value else none
  | .load values =>
      if values.length ≤ size then values[place.val]? else none

/-- What a call is told by a store that holds these bytes. -/
def reply
    (missing : Nat → AccessError)
    (content : Fin size → UInt8) :
    StoreCall → Reply
  | .read place =>
      if within : place < size then
        .value (content ⟨place, within⟩)
      else
        .refused (missing place)
  | .peek place =>
      if within : place < size then
        .value (content ⟨place, within⟩)
      else
        .value 0
  | .write place _ =>
      if place < size then .done else .refused (missing place)
  | .load values =>
      if values.length ≤ size then .done else .refused (missing size)

end StoreCall

/-- What calls have left in a place: the last byte put there, or else zero. -/
def remembered
    {size : Nat}
    (calls : List StoreCall)
    (place : Fin size) :
    UInt8 :=
  (calls.filterMap (StoreCall.put? place)).getLast?.getD 0

theorem remembered_append_singleton
    {size : Nat}
    (calls : List StoreCall)
    (call : StoreCall)
    (place : Fin size) :
    remembered (calls ++ [call]) place =
      (call.put? place).getD (remembered calls place) := by
  unfold remembered
  cases puts : call.put? place <;> simp [puts]

section

variable
  {State Request : Type}
  (respond : State → Request → Reply × State)

/-- The state after requests, one after the other. -/
def afterRequests (state : State) (requests : List Request) : State :=
  requests.foldl (fun current request => (respond current request).2) state

theorem afterRequests_append_singleton
    (state : State)
    (requests : List Request)
    (request : Request) :
    afterRequests respond state (requests ++ [request]) =
      (respond (afterRequests respond state requests) request).2 := by
  simp [afterRequests]

/-- The replies to requests, one after the other. -/
def replies : State → List Request → List Reply
  | _, [] => []
  | state, request :: rest =>
      (respond state request).1 :: replies (respond state request).2 rest

/-- The reply to a request is that of the state after the requests before it. -/
theorem getElem?_replies
    (state : State)
    (requests : List Request)
    (index : Nat) :
    (replies respond state requests)[index]? =
      requests[index]?.map fun request =>
        (respond
          (afterRequests respond state (requests.take index)) request).1 := by
  induction requests generalizing state index with
  | nil => simp [replies]
  | cons request rest inductionHypothesis =>
      cases index with
      | zero => simp [replies, afterRequests]
      | succ index =>
          simp only [replies, List.getElem?_cons_succ, inductionHypothesis]
          rfl

end

/-- A state replies as a store does, and after a request it holds what was put. -/
structure IsStore
    {State Request : Type}
    {size : Nat}
    (missing : Nat → AccessError)
    (meaning : Request → StoreCall)
    (respond : State → Request → Reply × State)
    (content : State → Fin size → UInt8) :
    Prop where
  reply :
    ∀ state request,
      (respond state request).1 =
        (meaning request).reply missing (content state)
  content :
    ∀ state request place,
      content (respond state request).2 place =
        ((meaning request).put? place).getD (content state place)

namespace IsStore

variable
  {State Request : Type}
  {size : Nat}
  {missing : Nat → AccessError}
  {meaning : Request → StoreCall}
  {respond : State → Request → Reply × State}
  {content : State → Fin size → UInt8}
  {fresh : State}

/-- The requests so far determine what is in the places. -/
theorem content_afterRequests
    (isStore : IsStore missing meaning respond content)
    (empty : ∀ place, content fresh place = 0)
    (requests : List Request) :
    content (afterRequests respond fresh requests) =
      remembered (requests.map meaning) := by
  funext place
  induction requests using List.reverseRecOn with
  | nil => exact empty place
  | append_singleton earlier request inductionHypothesis =>
      rw [afterRequests_append_singleton, isStore.content,
        inductionHypothesis, List.map_append, List.map_singleton,
        remembered_append_singleton]

/-- Each reply is the one that is due after the requests before. -/
theorem replies_eq
    (isStore : IsStore missing meaning respond content)
    (empty : ∀ place, content fresh place = 0)
    (requests : List Request)
    (index : Nat) :
    (replies respond fresh requests)[index]? =
      requests[index]?.map fun request =>
        (meaning request).reply missing
          (remembered ((requests.take index).map meaning) :
            Fin size → UInt8) := by
  simp only [getElem?_replies, isStore.reply,
    isStore.content_afterRequests empty]

end IsStore

namespace Reply

/-- The reply to a read. -/
def ofRead : Except AccessError UInt8 → Reply
  | .ok byte => .value byte
  | .error error => .refused error

/-- The reply to a change and the state after it, which a refusal leaves alone. -/
def ofChange
    {State : Type}
    (state : State) :
    Except AccessError State → Reply × State
  | .ok changed => (.done, changed)
  | .error error => (.refused error, state)

theorem ofChange_of_refused
    {State : Type}
    {state : State}
    {change : Except AccessError State}
    {error : AccessError}
    (refused : (ofChange state change).1 = .refused error) :
    (ofChange state change).2 = state := by
  cases change with
  | ok changed => simp [ofChange] at refused
  | error other => rfl

end Reply

namespace Memory

/-- The byte in a cell. -/
def content (memory : Memory) (place : Fin 256) : UInt8 :=
  memory.cells.get place

/-- The reply to a call, and the memory after it. -/
def respond (memory : Memory) : StoreCall → Reply × Memory
  | .read address => (Reply.ofRead (memory.read address), memory)
  | .peek address => (.value (memory.peek address), memory)
  | .write address value =>
      Reply.ofChange memory (memory.write address value)
  | .load image => Reply.ofChange memory (memory.load image)

variable {memory : Memory}

theorem content_mk {address : Nat} (bound : address < 256) :
    memory.content ⟨address, bound⟩ = memory.cells[address] := rfl

theorem respond_of_refused
    {call : StoreCall}
    {error : AccessError}
    (refused : (memory.respond call).1 = .refused error) :
    (memory.respond call).2 = memory := by
  cases call with
  | read | peek => rfl
  | write | load => exact Reply.ofChange_of_refused refused

/-- A memory replies as a store of 256 places. -/
theorem reply_respond (call : StoreCall) :
    (memory.respond call).1 = call.reply .memory memory.content := by
  cases call with
  | read address | peek address | write address value =>
      by_cases within : address < 256 <;>
        simp [respond, Reply.ofRead, Reply.ofChange, read, peek, write,
          content_mk, StoreCall.reply, within]
  | load image =>
      by_cases fits : image.length ≤ 256 <;>
        simp [respond, Reply.ofChange, load, size, StoreCall.reply, fits]

/-- After a call, a cell holds what the call has put there, or what it held. -/
theorem content_respond (call : StoreCall) (place : Fin 256) :
    (memory.respond call).2.content place =
      (call.put? place).getD (memory.content place) := by
  obtain ⟨cell, bound⟩ := place
  cases call with
  | read | peek => rfl
  | write address value =>
      by_cases within : address < 256
      · by_cases same : address = cell <;>
          simp [respond, Reply.ofChange, write, within, bound, content_mk,
            StoreCall.put?, same]
      · have apart : address ≠ cell := by omega
        simp [respond, Reply.ofChange, write, within, StoreCall.put?, apart]
  | load image =>
      by_cases fits : image.length ≤ 256 <;>
        simp [respond, Reply.ofChange, load, content_mk, StoreCall.put?,
          fits]

end Memory

/-- A call on the registers. -/
inductive RegisterCall where
  | get (index : Nat)
  | set (index : Nat) (value : UInt8)
  | stackPointer
  | setStackPointer (value : UInt8)
  deriving Repr

/-- What a call on the registers is on a store; the stack pointer is R7. -/
def RegisterCall.meaning : RegisterCall → StoreCall
  | .get index => .read index
  | .set index value => .write index value
  | .stackPointer => .read 7
  | .setStackPointer value => .write 7 value

namespace Registers

/-- The reply to a call, and the registers after it. -/
def respond (registers : Registers) : RegisterCall → Reply × Registers
  | .get index => (Reply.ofRead (registers.get index), registers)
  | .set index value => Reply.ofChange registers (registers.set index value)
  | .stackPointer => (.value registers.stackPointer, registers)
  | .setStackPointer value => (.done, registers.setStackPointer value)

variable {registers : Registers}

theorem respond_of_refused
    {call : RegisterCall}
    {error : AccessError}
    (refused : (registers.respond call).1 = .refused error) :
    (registers.respond call).2 = registers := by
  cases call with
  | get | stackPointer => rfl
  | set => exact Reply.ofChange_of_refused refused
  | setStackPointer => simp [respond] at refused

theorem respond_stackPointer :
    registers.respond .stackPointer = registers.respond (.get 7) := rfl

theorem respond_setStackPointer (value : UInt8) :
    registers.respond (.setStackPointer value) =
      registers.respond (.set 7 value) := rfl

/-- The registers reply as a store of eight places. -/
theorem reply_respond (call : RegisterCall) :
    (registers.respond call).1 =
      call.meaning.reply .register registers.value := by
  have onRead (index : Nat) :
      (registers.respond (.get index)).1 =
        (StoreCall.read index).reply .register registers.value := by
    by_cases within : index < 8 <;>
      simp [respond, Reply.ofRead, get, Register.named, Except.map,
        StoreCall.reply, within]
  have onWrite (index : Nat) (value : UInt8) :
      (registers.respond (.set index value)).1 =
        (StoreCall.write index value).reply .register registers.value := by
    by_cases within : index < 8 <;>
      simp [respond, Reply.ofChange, set, Register.named, Except.map,
        StoreCall.reply, within]
  cases call with
  | get index => exact onRead index
  | set index value => exact onWrite index value
  | stackPointer => exact respond_stackPointer ▸ onRead 7
  | setStackPointer value =>
      exact respond_setStackPointer value ▸ onWrite 7 value

/-- After a call, a register holds what the call has put there, or what it held. -/
theorem content_respond (call : RegisterCall) (place : Register) :
    (registers.respond call).2.value place =
      (call.meaning.put? place).getD (registers.value place) := by
  have onWrite (index : Nat) (value : UInt8) :
      (registers.respond (.set index value)).2.value place =
        ((StoreCall.write index value).put? place).getD
          (registers.value place) := by
    by_cases within : index < 8
    · by_cases same : index = place.val <;>
        simp [respond, Reply.ofChange, set, Register.named, Except.map, within,
          value_update, StoreCall.put?, same, Fin.ext_iff]
    · have apart : index ≠ place.val := by omega
      simp [respond, Reply.ofChange, set, Register.named, Except.map, within,
        StoreCall.put?, apart]
  cases call with
  | get | stackPointer => rfl
  | set index value => exact onWrite index value
  | setStackPointer value =>
      exact respond_setStackPointer value ▸ onWrite 7 value

end Registers

theorem isStore_memory :
    IsStore .memory id Memory.respond Memory.content where
  reply _ := Memory.reply_respond
  content _ := Memory.content_respond

theorem isStore_registers :
    IsStore .register RegisterCall.meaning Registers.respond
      Registers.value where
  reply _ := Registers.reply_respond
  content _ := Registers.content_respond

/--
In any sequence of calls on an empty memory or on empty registers, each call is
told what a store tells it of which nothing is known but the calls before: a
place holds the byte that was put there last, or zero, and a call is refused if
it names a place that is not there. What is refused changes nothing. The stack
pointer is read and set just as R7 is.
-/
theorem stores_remember :
    (∀ (calls : List StoreCall) (index : Nat),
      (replies Memory.respond Memory.empty calls)[index]? =
        calls[index]?.map
          (StoreCall.reply .memory
            (remembered (calls.take index) : Fin 256 → UInt8))) ∧
      (∀ (memory : Memory) (call : StoreCall) (error : AccessError),
        (memory.respond call).1 = .refused error →
          (memory.respond call).2 = memory) ∧
      (∀ (calls : List RegisterCall) (index : Nat),
        (replies Registers.respond Registers.empty calls)[index]? =
          calls[index]?.map fun call =>
            call.meaning.reply .register
              (remembered ((calls.take index).map RegisterCall.meaning) :
                Fin 8 → UInt8)) ∧
      (∀ (registers : Registers) (call : RegisterCall) (error : AccessError),
        (registers.respond call).1 = .refused error →
          (registers.respond call).2 = registers) ∧
      ∀ registers : Registers,
        registers.respond .stackPointer = registers.respond (.get 7) ∧
          ∀ value,
            registers.respond (.setStackPointer value) =
              registers.respond (.set 7 value) := by
  refine ⟨?_, fun _ _ _ => Memory.respond_of_refused, ?_,
    fun _ _ _ => Registers.respond_of_refused,
    fun _ => ⟨Registers.respond_stackPointer,
      Registers.respond_setStackPointer⟩⟩
  · intro calls index
    have empty : ∀ place, Memory.empty.content place = 0 := by
      rintro ⟨place, bound⟩
      simp [Memory.empty, Memory.content_mk]
    simpa using isStore_memory.replies_eq empty calls index
  · intro calls index
    have empty (place : Register) : Registers.empty.value place = 0 := by
      simp [Registers.empty, Registers.value]
    exact isStore_registers.replies_eq empty calls index

/-- The first place that is not there, in either store. -/
theorem stores_remember_beyond_end :
    (Memory.empty.respond (.write 256 7)).1 = .refused (.memory 256) ∧
      (Memory.empty.respond (.write 256 7)).2 = Memory.empty ∧
      (Registers.empty.respond (.set 8 7)).1 = .refused (.register 8) ∧
      (Registers.empty.respond (.set 8 7)).2 = Registers.empty := by
  obtain ⟨-, refusedByMemory, -, refusedByRegisters, -⟩ := stores_remember
  exact ⟨rfl, refusedByMemory _ _ _ rfl, rfl, refusedByRegisters _ _ _ rfl⟩

example :
    replies Memory.respond Memory.empty
        [.write 2 9, .load [1, 2], .read 1, .read 2, .peek 256, .write 256 7] =
      [.done, .done, .value 2, .value 9, .value 0, .refused (.memory 256)] := by
  decide +kernel

end LS8
