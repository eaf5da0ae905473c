import CardBridge.Card.Proximity
import CardBridge.Card.Remote
import CardBridge.Card.Scripted
import CardBridge.Proofs.Card.Release
import CardBridge.Proofs.Frame.Sending
import CardBridge.Proofs.Session.Rules

/-!
# How each kind of card lets go

What a simulator, a contactless card and a remote card each ask of what lies
underneath them. All three mind their state, so each of them lets go once,
whatever is done with it and whatever fails (`cards_let_go_once`).
-/

namespace CardBridge

open Dialogue Card

/-- Power is there all along; to take it away is to reset, and that is one
question. -/
def Card.ResetsBy {I : Interface} (q : I.Ask)
    (meaning : I.Answer q → Except CardError Unit) :
    Operation → List (Posed I) → Option (Except CardError Unit) → Prop
  | .powerOn, posed, came => posed = [] ∧ came = some (.ok ())
  | .powerOff, posed, came => Once q meaning posed came
  | .reset, posed, came => Once q meaning posed came
  | _, _, _ => True

/-! ## Simulators -/

namespace Simulator

def isDestroy : Simulator.Ask → Bool
  | .destroy => true
  | _ => false

/-- It answers an APDU by saying that it was ejected. -/
def disowns : Exchange Simulator → Prop
  | ⟨.process _, .error .ejected⟩ => True
  | _ => False

/-- A simulator is destroyed, which cannot fail. -/
def manner : Manner Simulator where
  release := .destroy
  isRelease := isDestroy
  isRelease_release := rfl
  meaning _ := .ok ()
  disowns := disowns
  powers := ResetsBy (I := Simulator) .reset fun _ => .ok ()

theorem minds : Minds perform id manner where
  late := by
    rintro op _ rfl
    cases op <;> exact ⟨_, rfl, rfl⟩
  release := by
    rintro _ rfl
    exact ⟨true, rfl, rfl⟩
  timely := by
    rintro op _ hop rfl
    cases op with
    | powerOn => exact ⟨rfl, nofun⟩
    | powerOff | reset | atr =>
      exact manner.keeps_once rfl (fun _ => rfl) fun _ => nofun
    | transmit apdu =>
      refine manner.keeps_once rfl (fun _ => rfl) ?_
      rintro answer rfl
      trivial
    | eject => exact absurd rfl hop
  power := by
    rintro op _ rfl ω handle w result w' posed hrun
    cases op with
    | powerOn =>
      cases hrun
      exact ⟨rfl, rfl⟩
    | powerOff | reset => exact (once_of_run hrun fun _ => rfl).1
    | atr | transmit | eject => trivial

end Simulator

/-! ## Contactless cards -/

namespace Proximity

def isClose : Tag.Ask → Bool
  | .close => true
  | _ => false

/-- It answers an APDU by saying that it was ejected. -/
def disowns : Exchange Tag → Prop
  | ⟨.transceive _, .error .ejected⟩ => True
  | _ => False

/-- A tag is closed. Its master file is selected in place of a reset. -/
def manner : Manner Tag where
  release := .close
  isRelease := isClose
  isRelease_release := rfl
  meaning := id
  disowns := disowns
  powers := ResetsBy (I := Tag) (.transceive selectMasterFile)
    fun answer => answer.map fun _ => ()

theorem asks_historical : historical.Asks fun q => isClose q = false := by
  refine ⟨rfl, ?_⟩
  rintro (_ | bytes)
  · refine ⟨rfl, ?_⟩
    rintro (_ | info)
    · trivial
    · exact ⟨rfl, fun _ => trivial⟩
  · trivial

theorem asks_atr : atr.Asks fun q => isClose q = false := by
  refine asks_historical.bind fun bytes => ?_
  cases Atr.warning? bytes with
  | none => trivial
  | some record => exact ⟨rfl, fun _ => trivial⟩

theorem minds : Minds perform id manner where
  late := by
    rintro op _ rfl
    cases op <;> exact ⟨_, rfl, rfl⟩
  release := by
    rintro _ rfl
    exact ⟨true, rfl, rfl⟩
  timely := by
    rintro op _ hop rfl
    cases op with
    | powerOn => exact ⟨rfl, nofun⟩
    | powerOff | reset =>
      refine manner.keeps_once rfl (fun _ => rfl) ?_
      rintro (e | response) heq
      · cases heq
        trivial
      · cases heq
    | transmit apdu =>
      refine manner.keeps_once rfl (fun _ => rfl) ?_
      rintro answer rfl
      trivial
    | atr =>
      have hspared : atr.Keeps noting manner.Spares (fun _ _ => True) [] :=
        asks_atr.keeps (by rintro q _ hq - _ ⟨⟩; exact hq) (fun _ _ => nofun)
          (fun _ _ _ _ _ _ _ => trivial) trivial
      exact hspared.bind fun bytes notes _ => ⟨rfl, nofun⟩
    | eject => exact absurd rfl hop
  power := by
    rintro op _ rfl ω handle w result w' posed hrun
    cases op with
    | powerOn =>
      cases hrun
      exact ⟨rfl, rfl⟩
    | powerOff | reset =>
      refine (once_of_run hrun fun a => ?_).1
      cases a <;> rfl
    | atr | transmit | eject => trivial

end Proximity

/-! ## Remote cards -/

namespace Remote

variable {α ω : Type} {rounds : Nat}

/-- A question about the stream of a connection. -/
def onStream (p : Posed Stream) : Posed Socket :=
  ⟨.stream p.question, p.answer⟩

theorem run_talk_posed (handle : Handler Socket ω) (d : Dialogue Stream α)
    (w : ω) (before : List (Posed Stream)) :
    (Socket.talk d).run handle.posed (w, before.map onStream) =
      let (result, w', posed) :=
        d.run (Handler.posed fun q => handle (.stream q)) (w, before)
      (result, w', posed.map onStream) := by
  induction d generalizing w before with
  | done a => rfl
  | cut => rfl
  | ask q next ih =>
    rcases hanswer : handle (.stream q) w with ⟨_ | a, w₁⟩
    · simp [Socket.talk, embed, run, Handler.posed, hanswer, onStream]
    · have hnext := ih a w₁ (before ++ [⟨q, some a⟩])
      rw [List.map_append] at hnext
      simpa [Socket.talk, embed, run, Handler.posed, hanswer, onStream]
        using hnext

/-- One attempt to send a frame: it is offered in full at first, then what
is left of it, and flushed in the end, up to the first failure. Nothing else
ends it but too many interruptions, or a question that is left open. -/
structure Attempt (rounds : Nat) (frame : Bytes) (said : List (Posed Stream))
    (came : Option (Except FrameError Unit)) : Prop where
  first : ∃ answer later, said = ⟨.send frame, answer⟩ :: later
  asked : ∀ earlier p later, said = earlier ++ p :: later →
    Frame.Asked frame rounds (some p.question) (answered earlier)
  ended : ∀ r, came = some r → Frame.Came frame r (answered said)
  cut : came = none →
    rounds ≤ frame.length + (answered said).countP Frame.interrupts ∨
      ∃ p ∈ said, p.answer = none

/-- One frame was attempted to be sent, and that decided how the operation
came out. -/
def OneFrame (rounds : Nat) (frame : Bytes) (posed : List (Posed Socket))
    (came : Option (Except CardError Unit)) : Prop :=
  ∃ said result, Attempt rounds frame said result ∧
    posed = said.map onStream ∧
      came = result.map fun r => r.mapError .frame

/-- A control command fits a frame, so it is attempted to be sent. -/
theorem run_sendControl_posed (handle : Handler Stream ω) (rounds : Nat)
    (command : ControlCommand) (w : ω) :
    ∃ result w' said,
      (Frame.sendControl (rounds + 1) command).run handle.posed (w, []) =
        (result, w', said) ∧
      Attempt (rounds + 1) (Frame.wire [command.code]) said result := by
  obtain ⟨next, hnext⟩ : ∃ next, Frame.sendControl (rounds + 1) command =
      .ask (.send (Frame.wire [command.code])) next := ⟨_, rfl⟩
  obtain ⟨_, _, answer, later, hfirst⟩ := run_posed_ask handle _ next w
  obtain ⟨result, w', said, hrun, hasked, hend⟩ :=
    (Frame.keeps_order_noting (rounds + 1) (.control command)).run_posed
      handle w []
  simp only [List.nil_append] at hrun hasked hend
  refine ⟨result, w', said, hrun, ?_, ?_, ?_, ?_⟩
  · rw [Frame.Order.perform, hnext, hfirst] at hrun
    cases hrun
    exact ⟨answer, later, rfl⟩
  · exact fun earlier p later hsaid => (hasked earlier p later hsaid).2
  · rintro r rfl
    exact hend
  · rintro rfl
    exact hend.imp_left fun h => h.2.2

def isShutdown : Socket.Ask → Bool
  | .shutdown => true
  | _ => false

/-- How the shutdown of a connection went. One that is gone already counts
as shut down, so that is no failure. -/
def uponShutdown : Except IoError Unit → Except CardError Unit
  | .ok () => .ok ()
  | .error cause =>
    if cause.kind = .notConnected then .ok ()
    else .error (.transport (.io cause))

/-- A connection is shut down. A remote card is told in one frame what is to
be done, and what it says is never that it was ejected. -/
def manner (rounds : Nat) : Manner Socket where
  release := .shutdown
  isRelease := isShutdown
  isRelease_release := rfl
  meaning := uponShutdown
  disowns _ := False
  powers
    | .powerOn => OneFrame rounds (Frame.wire [ControlCommand.powerOn.code])
    | .powerOff => OneFrame rounds (Frame.wire [ControlCommand.powerOff.code])
    | .reset => OneFrame rounds (Frame.wire [ControlCommand.reset.code])
    | _ => fun _ _ => True

theorem spares_stream (q : Option Stream.Ask)
    (said : List (Exchange Socket)) :
    (manner rounds).Spares (q.map .stream) said := by
  intro asked hasked
  obtain ⟨q, -, rfl⟩ := Option.map_eq_some_iff.mp hasked
  rfl

/-- What has gone wrong on the stream is not that the card was ejected. -/
theorem keeps_tell {send : Dialogue Stream (Except FrameError Unit)}
    {said : List (Exchange Socket)} :
    (tell send).Keeps noting (manner rounds).Spares
      (fun result _ => result ≠ .error .ejected) said := by
  refine keeps_bind.mpr (Session.keeps_talk.mpr ?_)
  refine keeps_of_forall spares_stream fun result said => ?_
  cases result <;> nofun

theorem keeps_command {most : Nat} {what : ControlCommand} {card : Remote}
    {said : List (Exchange Socket)} :
    (command most what card).Keeps noting (manner rounds).Spares
      (fun r _ => r.2 = card ∧ r.1 ≠ .error .ejected) said :=
  keeps_tell.bind fun _ _ hresult => ⟨rfl, hresult⟩

theorem keeps_converse {most : Nat}
    {send : Dialogue Stream (Except FrameError Unit)} {card : Remote}
    {said : List (Exchange Socket)} :
    (converse most send card).Keeps noting (manner rounds).Spares
      (fun r _ => r.2.ejected = card.ejected ∧ r.1 ≠ .error .ejected)
      said := by
  refine keeps_tell.bind fun result said hresult => ?_
  cases result with
  | error e => exact ⟨rfl, fun heq => hresult (by cases heq; rfl)⟩
  | ok =>
    refine keeps_bind.mpr (Session.keeps_talk.mpr ?_)
    refine keeps_of_forall spares_stream fun r said => ⟨rfl, ?_⟩
    rcases r with ⟨e | payload, buffer⟩
    · cases e <;> nofun
    · nofun

theorem perform_eject (rounds : Nat) (buffer : Bytes) :
    perform rounds .eject ⟨buffer, false⟩ =
      ask (I := Socket) .shutdown fun answer =>
        done (uponShutdown answer, ⟨buffer, true⟩) := by
  refine congrArg (ask (I := Socket) .shutdown) (funext fun answer => ?_)
  cases answer with
  | ok => rfl
  | error cause =>
    show done (Except.mapError CardError.transport
        (if cause.kind = .notConnected then .ok () else .error (.io cause)),
        Remote.mk buffer true) =
      done (uponShutdown (.error cause), Remote.mk buffer true)
    by_cases hgone : cause.kind = .notConnected
    · rw [uponShutdown, if_pos hgone, if_pos hgone]
      rfl
    · rw [uponShutdown, if_neg hgone, if_neg hgone]
      rfl

/-- A command is one frame, whatever becomes of it. -/
theorem oneFrame_of_run {handle : Handler Socket ω} {what : ControlCommand}
    {card : Remote} {w w' : ω} {posed : List (Posed Socket)}
    {result : Option (Except CardError Unit × Remote)}
    (hrun : (command (rounds + 1) what card).run handle.posed (w, []) =
      (result, w', posed)) :
    OneFrame (rounds + 1) (Frame.wire [what.code]) posed
      (result.map fun r => r.1.map fun _ => ()) := by
  obtain ⟨sent, w₁, said, hsend, hattempt⟩ :=
    run_sendControl_posed (fun q => handle (.stream q)) rounds what w
  have htalk :=
    run_talk_posed handle (Frame.sendControl (rounds + 1) what) w []
  rw [hsend, List.map_nil] at htalk
  rw [command, run_bind, tell, run_bind, htalk] at hrun
  cases sent with
  | none =>
    cases hrun
    exact ⟨said, none, hattempt, rfl, rfl⟩
  | some r =>
    cases hrun
    refine ⟨said, some r, hattempt, rfl, ?_⟩
    cases r <;> rfl

theorem minds (rounds : Nat) :
    Minds (perform (rounds + 1)) (·.ejected) (manner (rounds + 1)) where
  late := by
    rintro op ⟨buffer, _⟩ rfl
    cases op <;> exact ⟨_, rfl, rfl⟩
  release := by
    rintro ⟨buffer, _⟩ rfl
    exact ⟨⟨buffer, true⟩, rfl, perform_eject (rounds + 1) buffer⟩
  timely := by
    rintro op ⟨buffer, _⟩ hop rfl
    cases op with
    | powerOn | powerOff | reset =>
      refine keeps_command.imp fun r said h => ⟨?_, fun heq => absurd heq h.2⟩
      rw [h.1]
    | atr | transmit =>
      exact keeps_converse.imp fun r said h =>
        ⟨h.1, fun heq => absurd heq h.2⟩
    | eject => exact absurd rfl hop
  power := by
    rintro op ⟨buffer, _⟩ rfl ω handle w result w' posed hrun
    cases op with
    | powerOn | powerOff | reset => exact oneFrame_of_run hrun
    | atr | transmit | eject => trivial

end Remote

/-! ## All kinds -/

namespace Card

variable {ω : Type}

/-- Whatever is done with a card, and whatever fails underneath, what lies
there is let go of at most once, when the card is ejected first, and that
comes out as it does (a connection that is gone already counts as shut down).
Later nothing is asked, power is gone and the card is ejected without a
failure, and all else fails because it was ejected. Until then an operation
fails like that only if a simulator or a tag says so, and each kind of card
gives power, takes it away and is reset in its own manner. -/
theorem cards_let_go_once (ops : List Operation) :
    (∀ (handle : Handler Simulator ω) (w : ω),
      LetsGoOnce Simulator.manner ops
        (acts Simulator.perform handle ops false w)) ∧
    (∀ (handle : Handler Tag ω) (w : ω),
      LetsGoOnce Proximity.manner ops
        (acts Proximity.perform handle ops false w)) ∧
    ∀ (rounds : Nat) (buffer : Bytes) (handle : Handler Socket ω) (w : ω),
      LetsGoOnce (Remote.manner (rounds + 1)) ops
        (acts (Remote.perform (rounds + 1)) handle ops ⟨buffer, false⟩
          w) := by
  refine ⟨fun handle w => ?_, fun handle w => ?_,
    fun rounds buffer handle w => ?_⟩
  · exact Simulator.minds.letsGoOnce rfl handle ops w
  · exact Proximity.minds.letsGoOnce rfl handle ops w
  · exact (Remote.minds rounds).letsGoOnce rfl handle ops w

/-- Closing the tag fails, and the tag is closed all the same. -/
example :
    (acts Proximity.perform ScriptedTag.machine.handler
        [.reset, .eject, .eject, .powerOff, .transmit [0x00]] false
        { onClose := .error .remoteClosed }).map
      (fun act => (act.posed.length, act.came)) =
    [(1, some (.ok ())), (1, some (.error .remoteClosed)), (0, some (.ok ())),
      (0, some (.ok ())), (0, some (.error .ejected))] := rfl

end Card

end CardBridge
