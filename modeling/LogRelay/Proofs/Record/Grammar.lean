import LogRelay.Proofs.Blob.Members
import LogRelay.Proofs.Blob.Values
import LogRelay.Record.Event
import Mathlib.Data.List.TakeWhile

/-!
# The grammar of records

The payload of a record is a table. Each component of an event has a name and a type, and the last
member with exactly this name and this type tells it. The members are those of the grammar of tables
(`Blob.Members`), so that nothing here depends on how a payload is gone through.

The main statement is that a payload makes an event if and only if it is members of which all that
hold a component are valid and each component is held by one (`parse_follows_grammar`). Whatever else
a payload is, it is found malformed by a fault of its bytes, and what is read never exceeds the widths
of the record.
-/

namespace LogRelay.Event

open Blob

/-- The parts of an event, each of which has members of its own. -/
inductive Component where
  | message
  | id
  | priority
  | source
  | time
  deriving DecidableEq

namespace Component

/-- The name of the members of a component. -/
def name : Component → String
  | message => "msg"
  | id => "id"
  | priority => "priority"
  | source => "source"
  | time => "time"

/-- The type of the members of a component. -/
def kind : Component → Kind
  | message => .string
  | id | priority | source => .int32
  | time => .int64

/-- The member has exactly the bytes of the name, and the type, of the component. -/
def IsHeldBy (component : Component) (member : Member) : Prop :=
  member.name = Utf8.encode component.name ∧ member.type = component.kind.code

instance (component : Component) (member : Member) : Decidable (component.IsHeldBy member) :=
  inferInstanceAs (Decidable (_ ∧ _))

/-- The bytes can stand for the component: a message ends in a zero byte, and a number has its
width. -/
def Valid : Component → List UInt8 → Prop
  | message, bytes => bytes.getLast? = some 0
  | id, bytes | priority, bytes | source, bytes => bytes.length = 4
  | time, bytes => bytes.length = 8

/-- What the bytes stand for. A message ends at its first zero byte, and its faulty runs of bytes are
replaced. -/
def valueOf : Component → List UInt8 → Value
  | message, bytes => .text (Utf8.decodeLossy (bytes.takeWhile (· ≠ 0)))
  | id, bytes | priority, bytes | source, bytes | time, bytes => .integer (ofBigEndian bytes)

/-- The last of the members that hold the component. -/
def last? (component : Component) (members : List Member) : Option Member :=
  (members.filter (component.IsHeldBy ·)).getLast?

end Component

/-- What the event says about a component. -/
def value (event : Event) : Component → Value
  | .message => .text event.message
  | .id => .integer event.id
  | .priority => .integer event.priority
  | .source => .integer event.source
  | .time => .integer event.timestampMs

namespace Component

theorem policy_eq_some_iff {text : String} {code : Int} :
    policy text = some code ↔ ∃ component : Component, text = component.name ∧
      code = component.kind.code := by
  constructor
  · intro asked
    unfold policy at asked
    split at asked
    · cases asked
      exact ⟨message, rfl, rfl⟩
    · cases asked
      exact ⟨id, rfl, rfl⟩
    · cases asked
      exact ⟨priority, rfl, rfl⟩
    · cases asked
      exact ⟨source, rfl, rfl⟩
    · cases asked
      exact ⟨time, rfl, rfl⟩
    · cases asked
  · rintro ⟨component, rfl, rfl⟩
    cases component <;> rfl

theorem decodeValue_eq_ok_iff {component : Component} {bytes : List UInt8} {value : Value} :
    decodeValue component.kind.code bytes = .ok value ↔
      component.Valid bytes ∧ value = component.valueOf bytes := by
  cases component with
  | message => exact decodeValue_string_eq_ok_iff
  | id | priority | source | time => exact decodeValue_integer_eq_ok_iff rfl (by decide)

/-- The text of a name is that of a component only if its bytes are. -/
theorem label_eq_iff {component : Component} {member : Member} :
    member.label = component.name ↔ member.name = Utf8.encode component.name := by
  refine Utf8.decodeLossy_eq_iff ?_
  cases component <;> decide

/-- The policy asks for the members that hold a component. -/
theorem isWanted_iff {member : Member} :
    (member.isWanted fun name type => policy name = some (type : Int)) = true ↔
      ∃ component : Component, component.IsHeldBy member := by
  rw [Member.isWanted, decide_eq_true_eq, policy_eq_some_iff]
  refine exists_congr fun component => ?_
  rw [label_eq_iff, IsHeldBy]
  exact and_congr_right fun _ => Int.ofNat_inj

theorem name_injective {left right : Component} (same : left.name = right.name) : left = right := by
  cases left <;> cases right <;> first | rfl | exact absurd same (by decide)

/-- Of the members that are wanted, those with the name of a component hold it. -/
theorem filter_filter_eq (component : Component) (members : List Member) :
    (members.filter (·.isWanted fun name type => policy name = some (type : Int))).filter
        (·.label = component.name) = members.filter (component.IsHeldBy ·) := by
  rw [List.filter_filter]
  refine List.filter_congr fun member _ => ?_
  rw [Bool.eq_iff_iff, Bool.and_eq_true, decide_eq_true_eq, decide_eq_true_eq, isWanted_iff]
  constructor
  · rintro ⟨named, other, held⟩
    have same : other.name = component.name := by
      rw [← named]
      exact (label_eq_iff.mpr held.1).symm
    rwa [← name_injective same]
  · intro held
    exact ⟨label_eq_iff.mpr held.1, component, held⟩

end Component

/-! ## Events -/

/-- The numbers of the event fit the members of its record. -/
structure Fits (event : Event) : Prop where
  id : 0 ≤ event.id ∧ event.id < 0x100000000
  priority : 0 ≤ event.priority ∧ event.priority < 0x100000000
  source : 0 ≤ event.source ∧ event.source < 0x100000000
  time : 0 ≤ event.timestampMs ∧ event.timestampMs < 0x10000000000000000

/-- A table tells an event if and only if it has the value of each component under its name. -/
theorem ofTable?_eq_some_iff {table : Table} {event : Event} :
    ofTable? table = some event ↔
      ∀ component : Component, table.get? component.name = some (event.value component) := by
  constructor
  · intro tells
    unfold ofTable? at tells
    split at tells
    · rename_i message id priority source time
      cases tells
      intro component
      cases component <;> assumption
    · cases tells
  · intro holds
    have message := holds .message
    have id := holds .id
    have priority := holds .priority
    have source := holds .source
    have time := holds .time
    simp only [Component.name, value] at message id priority source time
    rw [ofTable?, message, id, priority, source, time]

/-- The members that are wanted, which are those that hold a component. -/
def wantedOf (members : List Member) : List Member :=
  members.filter (·.isWanted fun name type => policy name = some (type : Int))

/-- All members that are wanted can be read if and only if those that hold a component are valid. -/
theorem exists_gives_wantedOf_iff {members : List Member} :
    (∃ entries, List.Forall₂ Member.Gives (wantedOf members) entries) ↔
      ∀ component : Component, ∀ member ∈ members, component.IsHeldBy member →
        component.Valid member.value := by
  rw [exists_gives_iff]
  constructor
  · intro readable component member member_mem held
    have wanted := Component.isWanted_iff.mpr ⟨component, held⟩
    rcases readable member (List.mem_filter.mpr ⟨member_mem, wanted⟩) with ⟨value, decoded⟩
    rw [held.2] at decoded
    exact (Component.decodeValue_eq_ok_iff.mp decoded).1
  · intro valid member member_mem
    rcases List.mem_filter.mp member_mem with ⟨member_mem, wanted⟩
    rcases Component.isWanted_iff.mp wanted with ⟨component, held⟩
    rw [held.2]
    exact ⟨_, Component.decodeValue_eq_ok_iff.mpr ⟨valid component member member_mem held, rfl⟩⟩

/-- The table of the wanted members has the value of the last member that holds a component. -/
theorem get?_ofEntries_eq_some_iff {members : List Member} {entries : List (String × Value)}
    (gives : List.Forall₂ Member.Gives (wantedOf members) entries) (component : Component)
    (value : Value) :
    (Table.ofEntries entries).get? component.name = some value ↔
      ∃ member, component.last? members = some member ∧ component.Valid member.value ∧
        value = component.valueOf member.value := by
  rw [Table.get?_ofEntries, lastValue?_eq_some_iff gives, wantedOf, Component.filter_filter_eq]
  refine exists_congr fun member => and_congr_right fun last => ?_
  have held := of_decide_eq_true (List.mem_filter.mp (List.mem_of_getLast? last)).2
  rw [held.2, Component.decodeValue_eq_ok_iff]

/-- A payload is read as an event if and only if it is members of which those that hold a component
are valid, and the event has the value of the last member for each component. -/
theorem read_eq_some_iff {payload : List UInt8} {event : Event} :
    read payload = .ok (some event) ↔
      ∃ members, Members payload members ∧
        (∀ component : Component, ∀ member ∈ members, component.IsHeldBy member →
          component.Valid member.value) ∧
        ∀ component : Component, ∃ member, component.last? members = some member ∧
          event.value component = component.valueOf member.value := by
  have reads : read payload = .ok (some event) ↔
      ∃ table, parseTable policy payload = .ok table ∧ ofTable? table = some event := by
    rw [read]
    cases parseTable policy payload <;> simp [Except.map]
  simp only [reads, parseTable_eq, collect_readPart_eq_ok_iff, ofTable?_eq_some_iff]
  constructor
  · rintro ⟨_, ⟨members, entries, holds, gives, rfl⟩, tells⟩
    refine ⟨members, holds, exists_gives_wantedOf_iff.mp ⟨entries, gives⟩, fun component => ?_⟩
    rcases (get?_ofEntries_eq_some_iff gives component _).mp (tells component) with
      ⟨member, last, -, told⟩
    exact ⟨member, last, told⟩
  · rintro ⟨members, holds, valid, tells⟩
    rcases exists_gives_wantedOf_iff.mpr valid with ⟨entries, gives⟩
    refine ⟨_, ⟨members, entries, holds, gives, rfl⟩, fun component => ?_⟩
    rcases tells component with ⟨member, last, told⟩
    rcases List.mem_filter.mp (List.mem_of_getLast? last) with ⟨member_mem, held⟩
    exact (get?_ofEntries_eq_some_iff gives component _).mpr
      ⟨member, last, valid component member member_mem (of_decide_eq_true held), told⟩

theorem parse_eq_some_iff {payload : List UInt8} {event : Event} :
    (parse payload).1 = some event ↔ read payload = .ok (some event) := by
  rw [parse]
  cases read payload <;> simp

/-- Reading a payload meets faults of its bytes only. -/
theorem message?_of_read {payload : List UInt8} {fault : Fault}
    (met : read payload = .error fault) : fault.message? ≠ none := by
  rw [read, parseTable_eq] at met
  cases collected : collect (readPart fun name type => policy name = some (type : Int))
      (scan payload) with
  | error other =>
      rw [collected] at met
      cases met
      exact message?_of_collect_readPart collected
  | ok table =>
      rw [collected] at met
      cases met

/-- Every component that is held by a member has a value in some event. -/
theorem exists_value_eq (values : Component → List UInt8) :
    ∃ event : Event, ∀ component, event.value component = component.valueOf (values component) :=
  ⟨⟨Utf8.decodeLossy ((values .message).takeWhile (· ≠ 0)), ofBigEndian (values .id),
    ofBigEndian (values .priority), ofBigEndian (values .source), ofBigEndian (values .time)⟩,
    fun component => by cases component <;> rfl⟩

theorem Component.exists_last?_iff {component : Component} {members : List Member} :
    (∃ member, component.last? members = some member) ↔
      ∃ member ∈ members, component.IsHeldBy member := by
  rw [← Option.isSome_iff_exists, last?, List.getLast?_isSome]
  simp [List.filter_eq_nil_iff]

/-- The numbers of an event that was read fit, and its message has no U+0000. -/
theorem fits_of_read {payload : List UInt8} {event : Event}
    (reads : read payload = .ok (some event)) : event.Fits ∧ '\x00' ∉ event.message.toList := by
  rcases read_eq_some_iff.mp reads with ⟨members, -, valid, tells⟩
  have told : ∀ component : Component, ∃ bytes, component.Valid bytes ∧
      event.value component = component.valueOf bytes := by
    intro component
    rcases tells component with ⟨member, last, told⟩
    rcases List.mem_filter.mp (List.mem_of_getLast? last) with ⟨member_mem, held⟩
    exact ⟨member.value, valid component member member_mem (of_decide_eq_true held), told⟩
  have number : ∀ {bytes : List UInt8} {said : Int} {width bound : Nat}, bytes.length = width →
      Value.integer said = .integer (ofBigEndian bytes) → bound = Nat.pow 256 width →
      0 ≤ said ∧ said < bound := by
    rintro bytes said width bound rfl told rfl
    cases told
    exact ⟨Int.natCast_nonneg _, Int.ofNat_lt.mpr (ofBigEndian_lt bytes)⟩
  refine ⟨⟨?_, ?_, ?_, ?_⟩, ?_⟩
  · rcases told .id with ⟨bytes, wide, said⟩
    exact number wide said rfl
  · rcases told .priority with ⟨bytes, wide, said⟩
    exact number wide said rfl
  · rcases told .source with ⟨bytes, wide, said⟩
    exact number wide said rfl
  · rcases told .time with ⟨bytes, wide, said⟩
    exact number wide said rfl
  · rcases told .message with ⟨bytes, -, said⟩
    rw [Value.text.inj said]
    refine Utf8.zero_notMem_decodeLossy fun zero_mem => ?_
    simpa using List.mem_takeWhile_imp zero_mem

/-- A payload makes an event if and only if it is members, those that hold a component are valid,
and each component is held by one of them. Reading any other payload ends with a fault that has a
message, or finds a component missing. The event takes each component from the last member that holds
it, its numbers fit the widths of the record, and its message has no U+0000. -/
theorem parse_follows_grammar (payload : List UInt8) :
    (∀ fault, read payload = .error fault → fault.message? ≠ none) ∧
    ((∃ event, (parse payload).1 = some event) ↔
      ∃ members, Members payload members ∧
        (∀ component : Component, ∀ member ∈ members, component.IsHeldBy member →
          component.Valid member.value) ∧
        ∀ component : Component, ∃ member ∈ members, component.IsHeldBy member) ∧
    ∀ event, (parse payload).1 = some event →
      (∀ members, Members payload members → ∀ component : Component,
        ∃ member, component.last? members = some member ∧
          event.value component = component.valueOf member.value) ∧
      event.Fits ∧ '\x00' ∉ event.message.toList := by
  refine ⟨fun fault => message?_of_read, ?_, ?_⟩
  · simp only [parse_eq_some_iff, read_eq_some_iff]
    constructor
    · rintro ⟨event, members, holds, valid, tells⟩
      refine ⟨members, holds, valid, fun component => ?_⟩
      rcases tells component with ⟨member, last, -⟩
      exact Component.exists_last?_iff.mp ⟨member, last⟩
    · rintro ⟨members, holds, valid, held⟩
      choose member last using fun component => Component.exists_last?_iff.mpr (held component)
      rcases exists_value_eq fun component => (member component).value with ⟨event, told⟩
      exact ⟨event, members, holds, valid, fun component =>
        ⟨member component, last component, told component⟩⟩
  · intro event parses
    rw [parse_eq_some_iff] at parses
    refine ⟨?_, fits_of_read parses⟩
    rcases read_eq_some_iff.mp parses with ⟨members, holds, -, tells⟩
    intro others also_holds
    rwa [also_holds.unique holds]

/-- A payload with a message that has a zero byte inside, with two members that hold the number of the
record, and with two bytes too many at its end. -/
def repeatedId : List UInt8 :=
  [0x83, 0, 0, 16, 0, 3, 109, 115, 103, 0, 0, 0, 97, 0, 98, 0] ++
  [0x85, 0, 0, 16, 0, 2, 105, 100, 0, 0, 0, 0, 0, 0, 0, 7] ++
  [0x85, 0, 0, 20, 0, 8, 112, 114, 105, 111, 114, 105, 116, 121, 0, 0, 0, 0, 0, 14] ++
  [0x85, 0, 0, 20, 0, 6, 115, 111, 117, 114, 99, 101, 0, 0, 0, 0, 0, 0, 0, 1] ++
  [0x84, 0, 0, 20, 0, 4, 116, 105, 109, 101, 0, 0, 0, 0, 0, 0, 0, 0, 3, 232] ++
  [0x85, 0, 0, 16, 0, 2, 105, 100, 0, 0, 0, 0, 0, 0, 0, 9] ++ [0, 0]

theorem parse_follows_grammar_repeatedId :
    (parse repeatedId).1 = some ⟨"a", 9, 14, 1, 1000⟩ ∧
      (∃ members, Members repeatedId members ∧
        ∀ component : Component, ∃ member ∈ members, component.IsHeldBy member) ∧
      Fits ⟨"a", 9, 14, 1, 1000⟩ := by
  have parses : (parse repeatedId).1 = some ⟨"a", 9, 14, 1, 1000⟩ := by decide +kernel
  have follows := parse_follows_grammar repeatedId
  rcases follows.2.1.mp ⟨_, parses⟩ with ⟨members, holds, -, held⟩
  exact ⟨parses, ⟨members, holds, held⟩, (follows.2.2 _ parses).2.1⟩

end LogRelay.Event
