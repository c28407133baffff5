import CardTable.Frame
import CardTable.Proofs.Json.Compact
import CardTable.Proofs.Json.Reading
import CardTable.Request

namespace CardTable

/-!
# Requests on the wire

A request is sent as the compact text of an object.  What the object holds is
said here once more, by key and for each kind of request, and the text is read
back as exactly that.  So nothing of a request is lost on the way, two requests
never look the same, and a request that the server sends back is no frame of a
known type.
-/

namespace Request

/-- What is read back from the text of a request, in the order of the keys. -/
def object : Request -> Json.Members
  | move caller src index dst =>
      [("caller", .string caller), ("cmd", .string "move"), ("dst", .string dst),
        ("index", .number (.whole index.toNat)), ("src", .string src)]
  | endTurn caller comment =>
      [("caller", .string caller), ("cmd", .string "end"), ("comment", .string comment)]
  | inspect caller area index =>
      [("area", .string area), ("caller", .string caller), ("cmd", .string "inspect"),
        ("index", .number (.whole index.toNat))]
  | choose caller which =>
      [("caller", .string caller), ("cmd", .string "choose"),
        ("which", .number (.whole which.toNat))]
  | say caller none => [("caller", .string caller), ("cmd", .string "say")]
  | say caller (some message) =>
      [("caller", .string caller), ("cmd", .string "say"), ("msg", .string message)]

/-- The keys that requests have, in their order. -/
theorem keys_ascending :
    ["area", "caller", "cmd", "comment", "dst", "index", "msg", "src", "which"].Pairwise
      fun first second => first < second := by
  decide

theorem insertAll_members (request : Request) :
    Json.Members.insertAll [] request.members = request.object := by
  have order := keys_ascending
  simp only [List.pairwise_cons, List.forall_mem_cons] at order
  cases request with
  | say speaker message =>
      cases message <;>
        simp only [members, command, Request.caller, fields, object, Json.Members.insertAll_cons,
          Json.Members.insertAll_nil, Json.Members.insert_nil, Json.Members.insert_before,
          Json.Members.insert_behind, order]
  | _ =>
      simp only [members, command, Request.caller, fields, object, Json.Members.insertAll_cons,
        Json.Members.insertAll_nil, Json.Members.insert_nil, Json.Members.insert_before,
        Json.Members.insert_behind, order]

theorem get?_object_caller (request : Request) :
    request.object.get? "caller" = some (.string request.caller) := by
  cases request with
  | say speaker message => cases message <;> rfl
  | _ => rfl

theorem get?_object_type (request : Request) : request.object.get? "type" = none := by
  cases request with
  | say speaker message => cases message <;> rfl
  | _ => rfl

theorem object_injective : Function.Injective object := by
  intro first second same
  cases first with
  | say speaker message =>
      cases second with
      | say other text => cases message <;> cases text <;> simp_all [object]
      | _ => cases message <;> simp [object] at same
  | _ =>
      cases second with
      | say other text => cases text <;> simp [object] at same
      | _ => simp_all [object, UInt32.toNat_inj, UInt64.toNat_inj]

/-! ## Writing -/

/-- A value that a request can carry: a string, or a whole number of at most 64
bits. -/
def Carried (value : Json.Value) : Prop :=
  (Exists fun text => value = .string text) ∨
    Exists fun n : Nat => n < 2 ^ 64 ∧ value = .number (.whole n)

theorem carried_of_mem {request : Request} {key : String} {value : Json.Value}
    (member : (key, value) ∈ request.members) : Carried value := by
  have text (characters : String) : Carried (.string characters) :=
    Or.inl ⟨characters, rfl⟩
  have index (index : UInt32) : Carried (.number (.whole index.toNat)) :=
    Or.inr ⟨index.toNat, Nat.lt_trans index.toNat_lt (by decide), rfl⟩
  have which (which : UInt64) : Carried (.number (.whole which.toNat)) :=
    Or.inr ⟨which.toNat, which.toNat_lt, rfl⟩
  have all : forall member, member ∈ request.members -> Carried member.2 := by
    cases request with
    | say speaker message => cases message <;> simp [members, fields, text]
    | _ => simp [members, fields, text, index, which]
  exact all (key, value) member

theorem spellsObject_wire (request : Request) :
    Json.SpellsObject request.members request.wire := by
  apply Json.spellsObject_write
  intro key value member
  rcases carried_of_mem member with ⟨text, rfl⟩ | ⟨n, below, rfl⟩
  · exact Json.spells_writeString _ text
  · exact .whole (Json.fits_ofNat below)

theorem wire_printed (request : Request) : Json.Printed request.wire.toList := by
  rw [wire, String.toList_ofList]
  refine Json.printed_cons (by decide) (Json.writeMembers_printed ?_)
  intro key value member
  rcases carried_of_mem member with ⟨text, rfl⟩ | ⟨n, _, rfl⟩
  · exact Json.writeString_printed text
  · exact Json.decimal_printed n

/-! ## Reading back -/

theorem read_wire (request : Request) : Json.read request.wire = .ok (.object request.object) := by
  rw [Json.read_of_spellsObject request.spellsObject_wire, insertAll_members]

theorem wire_injective : Function.Injective wire := by
  intro first second same
  have objects := first.read_wire.symm.trans ((congrArg Json.read same).trans second.read_wire)
  simp only [Except.ok.injEq, Json.Value.object.injEq] at objects
  exact object_injective objects

theorem readFrame_wire (request : Request) : Frame.read request.wire = .ok (.unknown none) := by
  rw [Frame.read, read_wire]
  dsimp only
  rw [Frame.ofMembers, get?_object_type]

/-- The wire format loses nothing.

The text of every request is read back as an object that holds the command, the
caller and the fields of the request and nothing else, a message being there
exactly if there is one.  So different requests have different texts, also when
they differ only in an empty message.  No text has a control character, and
none of them is a frame of a known type. -/
theorem wire_lossless :
    (forall request : Request, Json.read request.wire = .ok (.object request.object)) ∧
    (forall speaker message,
      (say speaker message).object.get? "msg" = message.map Json.Value.string) ∧
    Function.Injective wire ∧
    (forall speaker, (say speaker none).wire ≠ (say speaker (some "")).wire) ∧
    (forall (request : Request) c, c ∈ request.wire.toList -> 0x20 ≤ c.toNat) ∧
    (forall request : Request, Frame.read request.wire = .ok (.unknown none)) := by
  refine ⟨read_wire, ?_, wire_injective, ?_, wire_printed, readFrame_wire⟩
  · intro speaker message
    cases message <;> rfl
  · intro speaker same
    cases wire_injective same

end Request
end CardTable
