import CardBridge.Cli.Record
import CardBridge.Proofs.Text.Grammar

/-!
# Events and records as lines of JSON

What is printed of an event is one line, an object with a member for the kind
of the event, and no other event is printed like it. What is printed of any
record is the same with the time in front (`lines_are_records`).
-/

namespace CardBridge

open JsonValue (Reads Printable Distinct)

/-! ## What is read back -/

def JsonValue.text? : JsonValue → Option String
  | .text value => some value
  | _ => none

/-- The reason that a value stands for. -/
def ExitReason.ofJson? : JsonValue → Option ExitReason
  | .text "cancelled" => some .cancelled
  | .text "peer_closed" => some .peerClosed
  | .object [("failed", .text text)] => some (.failed text)
  | _ => none

theorem ExitReason.ofJson?_json (reason : ExitReason) :
    ofJson? reason.json = some reason := by
  cases reason <;> rfl

namespace Event

/-- The event that the details behind its kind stand for. -/
def ofDetails? (kind : String) : List JsonValue → Option Event
  | [] =>
    match kind with
    | "powered_on" => some .poweredOn
    | "powered_off" => some .poweredOff
    | "reset" => some .reset
    | _ => none
  | [.text text] =>
    match kind with
    | "connected" => some (.connected text)
    | "atr" => some (.atr text)
    | "command_apdu" => some (.commandApdu text)
    | "response_apdu" => some (.responseApdu text)
    | "error" => some (.error text)
    | "client_disconnected" => some (.clientDisconnected text)
    | "disconnected" => (ExitReason.ofJson? (.text text)).map .disconnected
    | _ => none
  | [reason] => (ExitReason.ofJson? reason).map .disconnected
  | [.number port, .list addresses] =>
    (addresses.mapM JsonValue.text?).map (.listening port.toUInt16)
  | _ => none

def ofJson? : JsonValue → Option Event
  | .object (("event", .text kind) :: details) =>
    ofDetails? kind (details.map Prod.snd)
  | _ => none

theorem mapM_text? (addresses : List String) :
    (addresses.map JsonValue.text).mapM JsonValue.text? = some addresses := by
  induction addresses with
  | nil => rfl
  | cons address addresses ih => simp [JsonValue.text?, ih]

theorem ofJson?_json (event : Event) : ofJson? event.json = some event := by
  cases event with
  | listening port addresses =>
    show ((addresses.map JsonValue.text).mapM JsonValue.text?).map
      (Event.listening port.toNat.toUInt16) = _
    rw [mapM_text?, Option.map_some]
    exact congrArg (fun port => some (listening port addresses))
      UInt16.ofNat_toNat
  | disconnected reason => cases reason <;> rfl
  | connected | poweredOn | poweredOff | reset | atr | commandApdu
  | responseApdu | error | clientDisconnected => rfl

theorem json_injective {e e' : Event} (h : e.json = e'.json) : e = e' := by
  have hread := congrArg ofJson? h
  rw [ofJson?_json, ofJson?_json] at hread
  exact Option.some.inj hread

/-! ## What is written -/

theorem distinct_reason (reason : ExitReason) : Distinct reason.json := by
  cases reason with
  | cancelled => exact .text _
  | peerClosed => exact .text _
  | failed text =>
    refine .object ?_ (by simp)
    simp [Distinct.text]

theorem distinct_members (event : Event) :
    ∀ member ∈ event.members, Distinct member.2 := by
  cases event with
  | listening port addresses =>
    have haddresses : Distinct (.list (addresses.map .text)) := by
      refine .list ?_
      simp [Distinct.text]
    simp [members, Text.tagged, Distinct.text, Distinct.number, haddresses]
  | disconnected reason =>
    simp [members, Text.tagged, Distinct.text, distinct_reason]
  | connected | poweredOn | poweredOff | reset | atr | commandApdu
  | responseApdu | error | clientDisconnected =>
    simp [members, Text.tagged, Distinct.text]

end Event

namespace Cli.Record

theorem distinct_members (record : Record) :
    ∀ member ∈ record.members, Distinct member.2 := by
  cases record with
  | status event => exact event.distinct_members
  | waitingForCard | cardConnected | atr | exchange =>
    simp [members, Text.tagged, Distinct.text, Distinct.number]

/-- The kind stands in front of the details, and these have the names that
stand in the table. -/
theorem exists_details (record : Record) :
    ∃ details, record.members = ("event", .text record.kind) :: details ∧
      details.map Prod.fst = record.fields.map Prod.fst := by
  cases record with
  | status event => cases event <;> exact ⟨_, rfl, rfl⟩
  | waitingForCard | cardConnected | atr | exchange => exact ⟨_, rfl, rfl⟩

theorem nodup_names (record : Record) :
    ("timestamp" :: "event" :: record.fields.map Prod.fst).Nodup := by
  cases record with
  | status event => cases event <;> simp [fields, eventFields]
  | waitingForCard | cardConnected | atr | exchange => simp [fields]

theorem names_eq (record : Record) :
    record.members.map Prod.fst = "event" :: record.fields.map Prod.fst := by
  obtain ⟨details, hmembers, hdetails⟩ := record.exists_details
  rw [hmembers, List.map_cons, hdetails]

theorem distinct_json (timestamp : String) (record : Record) :
    Distinct (record.json timestamp) := by
  refine .object (List.forall_mem_cons.mpr ⟨.text _, record.distinct_members⟩)
    ?_
  rw [List.map_cons, record.names_eq]
  exact record.nodup_names

end Cli.Record

namespace Event

theorem members_eq (event : Event) :
    ∃ details, event.members = ("event", .text event.kind) :: details := by
  obtain ⟨details, hmembers, -⟩ := (Cli.Record.status event).exists_details
  exact ⟨details, hmembers⟩

theorem nodup_names (event : Event) : (event.members.map Prod.fst).Nodup := by
  have hnames := (Cli.Record.status event).names_eq
  have hnodup := (Cli.Record.status event).nodup_names
  rw [show event.members.map Prod.fst = _ from hnames]
  exact (List.nodup_cons.mp hnodup).2

theorem distinct_json (event : Event) : Distinct event.json :=
  .object event.distinct_members event.nodup_names

end Event

/-! ## Lines -/

namespace JsonValue

/-- A text stands for a value from its beginning to its end, and for nothing
else. -/
def StandsFor (text : String) (v : JsonValue) : Prop :=
  ∀ v' rest, Reads text.toList v' rest ↔ v' = v ∧ rest = []

theorem Distinct.standsFor_print {v : JsonValue} (h : Distinct v) :
    StandsFor v.print v := by
  have hprint : Reads v.print.toList v [] := by
    have hread := h.written [] Text.noDigit_nil
    rw [List.append_nil] at hread
    rw [print, String.toList_ofList]
    exact hread
  intro v' rest
  constructor
  · intro hread
    exact hread.unique hprint
  · rintro ⟨rfl, rfl⟩
    exact hprint

theorem StandsFor.unique {text : String} {v v' : JsonValue}
    (h : StandsFor text v) (h' : StandsFor text v') : v = v' :=
  ((h' v []).mp ((h v []).mpr ⟨rfl, rfl⟩)).1

theorem printable_print (v : JsonValue) : Printable v.print.toList := by
  rw [print, String.toList_ofList]
  exact printable_encode v

end JsonValue

open JsonValue (StandsFor)

theorem Event.print_eq_iff {event event' : Event} :
    event.json.print = event'.json.print ↔ event = event' := by
  constructor
  · intro h
    have hevent' := event'.distinct_json.standsFor_print
    rw [← h] at hevent'
    exact json_injective (event.distinct_json.standsFor_print.unique hevent')
  · rintro rfl
    rfl

open Cli

/-- An event is printed on one line, as an object that has its kind and no
name twice, and no other event is printed as that. A line of any record has
the time in front of this, under a name of its own, and besides the kind the
members that stand in the table. -/
theorem lines_are_records :
    (∀ event : Event, Printable event.json.print.toList ∧
      StandsFor event.json.print (.object event.members) ∧
      (event.members.map Prod.fst).Nodup ∧
      event.members.lookup "event" = some (.text event.kind)) ∧
    (∀ event event' : Event,
      event.json.print = event'.json.print ↔ event = event') ∧
    (∀ event : Event, (Record.status event).members = event.members) ∧
    ∀ timestamp (record : Record),
      Printable (record.render .json timestamp).toList ∧
      StandsFor (record.render .json timestamp)
        (.object (("timestamp", .text timestamp) :: record.members)) ∧
      (∃ details, record.members = ("event", .text record.kind) :: details ∧
        details.map Prod.fst = record.fields.map Prod.fst) ∧
      ("timestamp" :: "event" :: record.fields.map Prod.fst).Nodup := by
  refine ⟨fun event => ⟨JsonValue.printable_print _,
    event.distinct_json.standsFor_print, event.nodup_names, ?_⟩,
    fun _ _ => Event.print_eq_iff, fun _ => rfl, fun timestamp record =>
      ⟨JsonValue.printable_print _,
        (record.distinct_json timestamp).standsFor_print,
        record.exists_details, record.nodup_names⟩⟩
  obtain ⟨details, hmembers⟩ := event.members_eq
  rw [hmembers]
  rfl

/-- A failure is not taken for another reason that is called like its text,
nor are two texts for one another because of what has to be escaped. -/
theorem lines_are_records_of_reasons :
    (Event.disconnected .cancelled).json.print ≠
      (Event.disconnected (.failed "cancelled")).json.print ∧
    (Event.disconnected (.failed "\n")).json.print ≠
      (Event.disconnected (.failed "\\n")).json.print := by
  obtain ⟨-, heq, -⟩ := lines_are_records
  constructor
  · rw [Ne, heq]
    exact nofun
  · rw [Ne, heq]
    decide

end CardBridge
