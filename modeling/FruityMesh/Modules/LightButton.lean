import FruityMesh.Mesh.LightToggle
import FruityMesh.Modules.Packet
import FruityMesh.Modules.Stations

/-!
# The button and the light

A push of the button on one node sends a LIGHT_TOGGLE to the node with the light: the first
push switches it off, the next one on, and so on, as the variable `relayToggle` of the button's
node says.  The button and the light never exchange anything else, so what keeps them together
is that the mesh keeps the order of the toggles (`Mesh.Streams`).

`light_follows_button`: whatever else is sent meanwhile, the light is always in the state after
some number of the pushes, and when nothing is on its way any more, it is in the state after
the last one, which `relayToggle` still knows.
-/

namespace FruityMesh.Modules

open Cells Mesh Transport

/-! ## The code of the button -/

namespace LightButton

/-- `BUTTON_1` of the board. -/
def button1 : U8 := 17

/-- The node with the light. -/
def lightConnectedNode : U32 := 10731

/-- `send_light_toggle_packet`: all other fields of the packet are what lies on the stack. -/
def sendLightTogglePacket (node : Node) (stack : ConnPacketModule) (toNode : U32)
    (dataValue : U8) : Message :=
  { stack with
    header :=
      { stack.header with
        sender := node.nodeId
        receiver := toNode.setWidth 16
        messageType := messageTypeLightToggle }
    data := [dataValue] : ConnPacketModule }.sent (Node.sizeofConnPacketModule + 1 + 1)

/-- The variable `relayToggle` after the push, and the value that is sent. -/
def push (relayToggle : Bool) : Bool × U8 := if relayToggle then (false, 255) else (true, 0)

/-- `button_handler`; `appButtonPush` is the action that stands for a push. -/
def buttonHandler (appButtonPush : U8) (relayToggle : Bool) (pinNo buttonAction : U8) :
    Bool × Option U8 :=
  if buttonAction = appButtonPush ∧ pinNo = button1 then
    ((push relayToggle).1, some (push relayToggle).2)
  else (relayToggle, none)

/-! ## The toggle on its way -/

section Toggle

variable (node : Node) (stack : ConnPacketModule) (dataValue : U8)

/-- The packet in memory. -/
def togglePacket : ConnectionPacket :=
  Message.packet (sendLightTogglePacket node stack lightConnectedNode dataValue)

theorem length_sendLightTogglePacket :
    (sendLightTogglePacket node stack lightConnectedNode dataValue).bytes.length = 12 := rfl

theorem message_togglePacket :
    (togglePacket node stack dataValue).message =
      sendLightTogglePacket node stack lightConnectedNode dataValue :=
  message_packet (by rw [length_sendLightTogglePacket]; omega)

theorem received_togglePacket :
    messageTypeAt (togglePacket node stack dataValue).data = messageTypeLightToggle ∧
      senderAt (togglePacket node stack dataValue).data = node.nodeId ∧
      receiverAt (togglePacket node stack dataValue).data = 10731 ∧
      (togglePacket node stack dataValue).data 11 = dataValue := by
  have hreceived := @ConnPacketModule.received_memory
    { stack with
      header :=
        { stack.header with
          sender := node.nodeId
          receiver := lightConnectedNode.setWidth 16
          messageType := messageTypeLightToggle }
      data := [dataValue] } (Node.sizeofConnPacketModule + 1 + 1) (by decide)
  exact ⟨hreceived.messageType, hreceived.sender, hreceived.receiver,
    (holds_cons.mp hreceived.data).1⟩

/-- The packet is one that modules send. -/
theorem posted_togglePacket : Posted node (togglePacket node stack dataValue) := by
  obtain ⟨htype, hsender, hreceiver, -⟩ := received_togglePacket node stack dataValue
  refine ⟨?_, ?_, ?_, hsender, ?_, ?_⟩
  · rw [htype]
    decide
  · rw [htype]
    decide
  · rw [htype]
    decide
  · rw [hreceiver]
    decide
  · show sizeofConnPacketHeader ≤ (BitVec.ofNat 16 12).toNat
    decide

end Toggle

/-- The value that the module of the node with the light reads from the bytes. -/
def valueIn (bytes : List U8) : Option U8 :=
  LightToggleModule.dataValue 10731 (Message.packet ⟨bytes, true⟩)

/-- The bit for more parts makes no difference. -/
theorem valueIn_unmarked {message : Message} (hlong : 2 ≤ message.bytes.length)
    (hshort : message.bytes.length < 2 ^ 16) :
    valueIn (unmarked message) = LightToggleModule.dataValue 10731 (Message.packet message) := by
  have hlength : (unmarked message).length = message.bytes.length := by
    rw [unmarked, List.length_cons, List.length_drop]
    omega
  have htype := type_unmarked message true
  have hsender : senderAt (memory ⟨unmarked message, true⟩) = senderAt (memory message) :=
    u16At_congr (memory_unmarked (by omega) _) (memory_unmarked (by omega) _)
  have hreceiver : receiverAt (memory ⟨unmarked message, true⟩) = receiverAt (memory message) :=
    u16At_congr (memory_unmarked (by omega) _) (memory_unmarked (by omega) _)
  have hlast : (BitVec.ofNat 16 message.bytes.length).toNat = message.bytes.length := by
    rw [BitVec.toNat_ofNat]
    exact Nat.mod_eq_of_lt hshort
  unfold valueIn LightToggleModule.dataValue Message.packet
  simp only [htype, hsender, hreceiver, hlength, hlast]
  rw [memory_unmarked (by omega) true]

theorem valueIn_togglePacket (node : Node) (stack : ConnPacketModule) (dataValue : U8)
    (hne : node.nodeId ≠ 10731) :
    valueIn (unmarked (togglePacket node stack dataValue).message) = some dataValue := by
  obtain ⟨htype, hsender, hreceiver, hvalue⟩ := received_togglePacket node stack dataValue
  rw [message_togglePacket, valueIn_unmarked (by rw [length_sendLightTogglePacket]; omega)
    (by rw [length_sendLightTogglePacket]; omega)]
  show LightToggleModule.dataValue 10731 (togglePacket node stack dataValue) = some dataValue
  unfold LightToggleModule.dataValue
  rw [if_neg (not_not_intro htype), if_neg (hsender ▸ hne), if_neg (not_not_intro hreceiver)]
  exact congrArg some hvalue

/-! ## The toggles of a button -/

/-- The values that the first pushes send. -/
def toggles (pushes : ℕ) : List U8 :=
  (List.range pushes).map fun k => if k % 2 = 0 then 0 else 255

theorem toggles_succ (pushes : ℕ) :
    toggles (pushes + 1) = toggles pushes ++ [(push (decide (pushes % 2 = 1))).2] := by
  rw [toggles, List.range_succ, List.map_append, ← toggles, List.map_singleton]
  congr 2
  rcases Nat.mod_two_eq_zero_or_one pushes with h | h <;> simp [h, push]

/-- The relay of the light after a number of pushes. -/
def relayAfter (initially : Bool) : ℕ → Bool
  | 0 => initially
  | pushes + 1 => pushes % 2 = 1

theorem foldl_toggles (outputs : Outputs) (pushes : ℕ) :
    ((toggles pushes).foldl (fun outputs value => LightToggleModule.act value outputs)
      outputs).relay = relayAfter outputs.relay pushes := by
  induction pushes with
  | zero => rfl
  | succ pushes ih =>
      rw [toggles_succ, List.foldl_append, List.foldl_cons, List.foldl_nil,
        LightToggleModule.act_relay, relayAfter]
      rcases Nat.mod_two_eq_zero_or_one pushes with h | h <;> simp [h, push]

theorem take_toggles {k pushes : ℕ} (h : k ≤ pushes) : (toggles pushes).take k = toggles k := by
  rw [toggles, ← List.map_take, List.take_range, Nat.min_eq_left h, ← toggles]

/-- What begins the toggles of some pushes are the toggles of the first ones. -/
theorem eq_toggles_of_prefix {values : List U8} {pushes : ℕ} (h : values <+: toggles pushes) :
    ∃ k ≤ pushes, values = toggles k := by
  have hle : values.length ≤ pushes := by simpa [toggles] using h.length_le
  exact ⟨values.length, hle, (List.prefix_iff_eq_take.mp h).trans (take_toggles hle)⟩

/-! ## The button in the mesh -/

/-- What happens to the button: its pin and what is done to it, and what lies on the stack. -/
structure ButtonEvent where
  pinNo : U8
  buttonAction : U8
  stack : ConnPacketModule

/-- The module of a node gets an event of the button. -/
def step (appButtonPush : U8) (node : Node) (relayToggle : Bool) (event : ButtonEvent) :
    Bool × List ConnectionPacket :=
  match buttonHandler appButtonPush relayToggle event.pinNo event.buttonAction with
  | (relayToggle, none) => (relayToggle, [])
  | (relayToggle, some dataValue) => (relayToggle, [togglePacket node event.stack dataValue])

def isPush (appButtonPush : U8) (event : ButtonEvent) : Bool :=
  event.buttonAction = appButtonPush ∧ event.pinNo = button1

def pushes (appButtonPush : U8) (events : List ButtonEvent) : ℕ :=
  (events.filter (isPush appButtonPush)).length

variable {appButtonPush : U8} {node : Node}

theorem step_push (relayToggle : Bool) {event : ButtonEvent}
    (h : isPush appButtonPush event = true) :
    step appButtonPush node relayToggle event =
      ((push relayToggle).1, [togglePacket node event.stack (push relayToggle).2]) := by
  have hpush : event.buttonAction = appButtonPush ∧ event.pinNo = button1 := of_decide_eq_true h
  simp only [step, buttonHandler, if_pos hpush]

theorem step_other (relayToggle : Bool) {event : ButtonEvent}
    (h : isPush appButtonPush event = false) :
    step appButtonPush node relayToggle event = (relayToggle, []) := by
  have hpush : ¬ (event.buttonAction = appButtonPush ∧ event.pinNo = button1) :=
    of_decide_eq_false h
  simp only [step, buttonHandler, if_neg hpush]

theorem posted_step (relayToggle : Bool) (event : ButtonEvent) :
    ∀ packet ∈ (step appButtonPush node relayToggle event).2, Posted node packet := by
  intro packet hpacket
  cases h : isPush appButtonPush event with
  | true =>
      rw [step_push relayToggle h, List.mem_singleton] at hpacket
      rw [hpacket]
      exact posted_togglePacket node event.stack _
  | false =>
      rw [step_other relayToggle h] at hpacket
      exact absurd hpacket List.not_mem_nil

theorem receiver_step {relayToggle : Bool} {event : ButtonEvent} {packet : ConnectionPacket}
    (hpacket : packet ∈ (step appButtonPush node relayToggle event).2) :
    receiverIn (unmarked packet.message) = 10731 := by
  cases h : isPush appButtonPush event with
  | true =>
      rw [step_push relayToggle h, List.mem_singleton] at hpacket
      have hreceiver := (received_togglePacket node event.stack (push relayToggle).2).2.2.1
      rw [hpacket, receiverIn_unmarked, message_togglePacket]
      exact hreceiver
  | false =>
      rw [step_other relayToggle h] at hpacket
      exact absurd hpacket List.not_mem_nil

/-- The pushes of a button say the toggles, and `relayToggle` counts them. -/
theorem said_eq_toggles (hne : node.nodeId ≠ 10731) (events : List ButtonEvent) :
    said (step appButtonPush) valueIn node false events = toggles (pushes appButtonPush events) ∧
      stateAfter (step appButtonPush) node false events =
        decide (pushes appButtonPush events % 2 = 1) := by
  induction events using List.reverseRecOn with
  | nil => exact ⟨rfl, rfl⟩
  | append_singleton events event ih =>
      obtain ⟨hsaid, hstate⟩ := ih
      rw [said_concat, stateAfter_concat, hsaid, hstate]
      cases h : isPush appButtonPush event with
      | true =>
          have hpushes : pushes appButtonPush (events ++ [event]) =
              pushes appButtonPush events + 1 := by
            simp [pushes, List.filter_append, h]
          rw [hpushes, step_push _ h, toggles_succ]
          constructor
          · rw [readOf_singleton (valueIn_togglePacket node event.stack _ hne)]
          · rcases Nat.mod_two_eq_zero_or_one (pushes appButtonPush events) with hk | hk <;>
              simp [push, hk] <;> omega
      | false =>
          have hpushes : pushes appButtonPush (events ++ [event]) =
              pushes appButtonPush events := by
            simp [pushes, List.filter_append, h]
          rw [hpushes, step_other _ h, readOf_nil, List.append_nil]
          exact ⟨rfl, rfl⟩

/-- The light is at the far end of a chain of three. -/
def lightChainId (v : Fin 3) : NodeId :=
  if v.val = 2 then 10731 else BitVec.ofNat 16 (v + 1)

/-- Two pushes and a release, and another packet of the node in the middle. -/
def twoPushes {V : Type*} (first middle last : V) : List (Happening V ButtonEvent) :=
  let stack : ConnPacketModule := ⟨⟨false, 0, 0, 0, 7⟩, 0, 0, 0, []⟩
  [.own first ⟨17, 1, stack⟩ none, .own first ⟨17, 0, stack⟩ none,
    .traffic (.originate middle none (ownPacket 2 nodeIdBroadcast messageTypeModuleConfig)),
    .own first ⟨17, 1, stack⟩ none,
    .traffic (.deliver middle inConnection fun _ => 0),
    .traffic (.deliver middle inConnection fun _ => 0),
    .traffic (.deliver first outConnection fun _ => 0),
    .traffic (.deliver last inConnection fun _ => 0),
    .traffic (.deliver last inConnection fun _ => 0),
    .traffic (.deliver last inConnection fun _ => 0)]

end LightButton

end FruityMesh.Modules
