import NativeBinding.Proofs.ImpartialCommands
import NativeBinding.Proofs.Runs

/-!
Who is told what in a run. Whoever listens, and whether or not it breaks off, the run is the same;
and each message goes once to the handler that is installed when it is given.
-/
namespace NativeBinding

/-- The message of an event, with the name of the handler that it went to. -/
def Event.delivery? : Event → Option (Option String × LogLevel × String)
  | .message receiver level text => some (receiver, level, text)
  | _ => none

theorem Event.delivery?_sentTo (receiver : Option String) (e : Event) :
    (e.sentTo receiver).delivery? = e.message?.map (Prod.mk receiver) := by
  cases e <;> rfl

theorem Event.map_snd_delivery? (e : Event) : e.delivery?.map Prod.snd = e.message? := by
  cases e <;> rfl

/-- The messages of some events, in order. -/
def messagesOf (es : List Event) : List (LogLevel × String) := es.filterMap Event.message?

/-- The messages of some events, each with the name of the handler that it went to. -/
def deliveriesOf (es : List Event) : List (Option String × LogLevel × String) :=
  es.filterMap Event.delivery?

/-- The events without who was sent the messages. -/
def unaddressed (es : List Event) : List Event := es.map (Event.sentTo none)

theorem unaddressed_append (es es' : List Event) :
    unaddressed (es ++ es') = unaddressed es ++ unaddressed es' := List.map_append

theorem messagesOf_sentTo (receiver : Option String) (es : List Event) :
    messagesOf (es.map (Event.sentTo receiver)) = messagesOf es := by
  rw [messagesOf, List.filterMap_map]
  exact List.filterMap_congr fun e _ => e.message?_sentTo receiver

theorem unaddressed_sentTo (receiver : Option String) (es : List Event) :
    unaddressed (es.map (Event.sentTo receiver)) = unaddressed es := by
  rw [unaddressed, List.map_map]
  exact List.map_congr_left fun e _ => e.sentTo_sentTo none receiver

theorem deliveriesOf_sentTo (receiver : Option String) (es : List Event) :
    deliveriesOf (es.map (Event.sentTo receiver)) = (messagesOf es).map (Prod.mk receiver) := by
  rw [deliveriesOf, List.filterMap_map, messagesOf, List.map_filterMap]
  exact List.filterMap_congr fun e _ => e.delivery?_sentTo receiver

theorem messagesOf_unaddressed (es : List Event) : messagesOf (unaddressed es) = messagesOf es :=
  messagesOf_sentTo none es

theorem map_snd_deliveriesOf (es : List Event) :
    (deliveriesOf es).map Prod.snd = messagesOf es := by
  rw [deliveriesOf, List.map_filterMap]
  exact List.filterMap_congr fun e _ => e.map_snd_delivery?

namespace Scenario

variable {host : Host} {b b' : Bench} {t : Turn}

/-- The handler that is installed. -/
def Bench.handler (b : Bench) : Option Handler := b.desk.world.handler

/-- The name of that handler. -/
def Bench.receiver (b : Bench) : Option String := b.handler.map Handler.name

namespace Turn

def answer (b : Bench) (t : Turn) : Answer := (t.command.perform.run t.host b).1

/-- The turn is a change of the handler. -/
def changesHandler (t : Turn) : Bool := t.command.handler?.isSome

/-- The handler after a turn. -/
def handlerAfter (handler : Option Handler) (t : Turn) : Option Handler :=
  t.command.handler?.getD handler

end Turn

/-- The turns that are no change of the handler. -/
def operations (turns : List Turn) : List Turn := turns.filter fun t => !t.changesHandler

/-- The handler after some turns. -/
def handlerAfter (handler : Option Handler) (turns : List Turn) : Option Handler :=
  turns.foldl Turn.handlerAfter handler

/-- The answers of all turns but the changes of the handler. -/
def answersOf (b : Bench) : List Turn → List Answer
  | [] => []
  | t :: turns => (if t.changesHandler then [] else [t.answer b]) ++ answersOf (t.next b) turns

/-! One turn. -/

/-- The events of an impartial computation are those with nobody listening, but for where the
messages are sent. -/
theorem observed_sentTo {α : Type} {x : Action Bench α} (hx : x.Impartial) (host : Host)
    (b : Bench) : ((observed x).run host b).1.2 =
      ((observed x).run host (unheard b)).1.2.map (Event.sentTo b.receiver) := by
  have hquiet : ((observed x).run host (unheard b)).1.2 =
      (x.run host (unheard b)).2.desk.world.history.reverse :=
    observed_events (by rw [List.reverse_reverse]; exact (List.append_nil _).symm)
  rw [hquiet, List.map_reverse]
  apply observed_events
  rw [hx host b, List.reverse_reverse]
  rfl

namespace Turn

theorem handler?_eq_none (h : t.changesHandler = false) : t.command.handler? = none :=
  Option.isNone_iff_eq_none.mp (Option.isSome_eq_false_iff.mp h)

theorem perform_impartial (h : t.changesHandler = false) : t.command.perform.Impartial :=
  Command.perform_impartial (handler?_eq_none h)

theorem answer_unheard (h : t.changesHandler = false) (b : Bench) :
    t.answer b = t.answer (unheard b) := by
  rw [answer, t.perform_impartial h t.host b]
  rfl

theorem next_eq (h : t.changesHandler = false) (b : Bench) :
    t.next b = overheard b (t.next (unheard b)) :=
  congrArg Prod.snd (t.perform_impartial h t.host b)

theorem events_sentTo (h : t.changesHandler = false) (b : Bench) :
    t.events b = (t.events (unheard b)).map (Event.sentTo b.receiver) :=
  observed_sentTo (t.perform_impartial h) t.host b

/-- A change of the handler is all that such a turn does. -/
theorem next_of_changesHandler (h : t.changesHandler = true) (b : Bench) :
    unheard (t.next b) = unheard b ∧ t.events b = [] := by
  obtain ⟨host, c⟩ := t
  cases c with
  | log command =>
    cases command with
    | install handler => exact ⟨rfl, observed_events rfl⟩
    | clear => exact ⟨rfl, observed_events rfl⟩
    | message level text => cases h
  | _ => cases h

theorem handler_next (t : Turn) (b : Bench) : (t.next b).handler = t.handlerAfter b.handler := by
  cases h : t.changesHandler with
  | false =>
    rw [t.next_eq h, handlerAfter, handler?_eq_none h]
    rfl
  | true =>
    obtain ⟨host, c⟩ := t
    cases c with
    | log command => cases command <;> rfl
    | _ => cases h

/-- What a turn says goes to the handler that is installed, each message once and in order. -/
theorem deliveriesOf_events (t : Turn) (b : Bench) :
    deliveriesOf (t.events b) =
      (messagesOf (t.events (unheard b))).map (Prod.mk b.receiver) := by
  cases h : t.changesHandler with
  | false => rw [t.events_sentTo h, deliveriesOf_sentTo]
  | true =>
    rw [(t.next_of_changesHandler h b).2, (t.next_of_changesHandler h (unheard b)).2]
    rfl

end Turn

/-! Runs. -/

/-- Two runs that cannot be told apart but by who was sent the messages. -/
structure SameRun (b : Bench) (turns : List Turn) (b' : Bench) (turns' : List Turn) : Prop where
  answers : answersOf b turns = answersOf b' turns'
  events : unaddressed (eventsOf b turns) = unaddressed (eventsOf b' turns')
  left : unheard (after b turns) = unheard (after b' turns')

namespace SameRun

variable {b'' : Bench} {turns turns' turns'' : List Turn}

theorem refl (b : Bench) (turns : List Turn) : SameRun b turns b turns := ⟨rfl, rfl, rfl⟩

theorem symm (h : SameRun b turns b' turns') : SameRun b' turns' b turns :=
  ⟨h.answers.symm, h.events.symm, h.left.symm⟩

theorem trans (h : SameRun b turns b' turns') (h' : SameRun b' turns' b'' turns'') :
    SameRun b turns b'' turns'' :=
  ⟨h.answers.trans h'.answers, h.events.trans h'.events, h.left.trans h'.left⟩

theorem messages (h : SameRun b turns b' turns') :
    messagesOf (eventsOf b turns) = messagesOf (eventsOf b' turns') := by
  rw [← messagesOf_unaddressed, h.events, messagesOf_unaddressed]

/-- A change of the handler makes no difference. -/
theorem skip (h : t.changesHandler = true) (b : Bench) (turns : List Turn) :
    SameRun b (t :: turns) (t.next b) turns where
  answers := by simp [answersOf, h]
  events := by rw [eventsOf_cons, (t.next_of_changesHandler h b).2, List.nil_append]
  left := rfl

/-- Any other turn does the same on both benches. -/
theorem cons (h : t.changesHandler = false) (hb : unheard b = unheard b')
    (hrest : SameRun (t.next b) turns (t.next b') turns') :
    SameRun b (t :: turns) b' (t :: turns') where
  answers := by
    have hanswer : t.answer b = t.answer b' := by
      rw [t.answer_unheard h, t.answer_unheard h b', hb]
    simp only [answersOf, h, hanswer, hrest.answers]
  events := by
    have hevents : unaddressed (t.events b) = unaddressed (t.events b') := by
      rw [t.events_sentTo h, t.events_sentTo h b', unaddressed_sentTo, unaddressed_sentTo, hb]
    rw [eventsOf_cons, eventsOf_cons, unaddressed_append, unaddressed_append, hevents,
      hrest.events]
  left := hrest.left

end SameRun

theorem Turn.unheard_next (t : Turn) (hb : unheard b = unheard b') :
    unheard (t.next b) = unheard (t.next b') := by
  cases h : t.changesHandler with
  | false =>
    rw [t.next_eq h b, t.next_eq h b', unheard_overheard, unheard_overheard, hb]
  | true => rw [(t.next_of_changesHandler h b).1, (t.next_of_changesHandler h b').1, hb]

/-- Who listens at the start makes no difference. -/
theorem sameRun_of_unheard (hb : unheard b = unheard b') (turns : List Turn) :
    SameRun b turns b' turns := by
  induction turns generalizing b b' with
  | nil => exact ⟨rfl, rfl, hb⟩
  | cons t turns ih =>
    have hnext : SameRun (t.next b) turns (t.next b') turns := ih (t.unheard_next hb)
    cases h : t.changesHandler with
    | false => exact .cons h hb hnext
    | true => exact ((SameRun.skip h b turns).trans hnext).trans (SameRun.skip h b' turns).symm

/-- A run is the same without its changes of the handler. -/
theorem sameRun_operations (b : Bench) (turns : List Turn) :
    SameRun b turns b (operations turns) := by
  induction turns generalizing b with
  | nil => exact .refl b []
  | cons t turns ih =>
    cases h : t.changesHandler with
    | false =>
      have hcons : operations (t :: turns) = t :: operations turns :=
        List.filter_cons_of_pos (by simp [h])
      rw [hcons]
      exact .cons h rfl (ih (t.next b))
    | true =>
      have hcons : operations (t :: turns) = operations turns :=
        List.filter_cons_of_neg (by simp [h])
      have hback : unheard (t.next b) = unheard b := (t.next_of_changesHandler h b).1
      rw [hcons]
      exact ((SameRun.skip h b turns).trans (ih (t.next b))).trans (sameRun_of_unheard hback _)

theorem sameRun_of_operations_eq {turns turns' : List Turn}
    (h : operations turns = operations turns') (b : Bench) : SameRun b turns b turns' := by
  have hturns := sameRun_operations b turns
  rw [h] at hturns
  exact hturns.trans (sameRun_operations b turns').symm

theorem finalEvents_sentTo (host : Host) (b : Bench) :
    finalEvents host b = (finalEvents host (unheard b)).map (Event.sentTo b.receiver) :=
  observed_sentTo teardown_impartial host b

theorem handler_after (b : Bench) (turns : List Turn) :
    (after b turns).handler = handlerAfter b.handler turns := by
  induction turns generalizing b with
  | nil => rfl
  | cons t turns ih =>
    rw [after_cons, ih, t.handler_next]
    rfl

theorem receiver_after (b : Bench) (turns : List Turn) :
    (after b turns).receiver = (handlerAfter b.handler turns).map Handler.name :=
  congrArg (Option.map Handler.name) (handler_after b turns)

/-! Handlers that break off. -/

/-- The command with a handler that does not break off. -/
def Command.steadied : Command → Command
  | .log (.install handler) => .log (.install { handler with breaksOff := false })
  | c => c

def Turn.steadied (t : Turn) : Turn := { t with command := t.command.steadied }

namespace Turn

theorem changesHandler_steadied (t : Turn) : t.steadied.changesHandler = t.changesHandler := by
  obtain ⟨host, c⟩ := t
  cases c with
  | log command => cases command <;> rfl
  | _ => rfl

theorem steadied_eq_self (h : t.changesHandler = false) : t.steadied = t := by
  obtain ⟨host, c⟩ := t
  cases c with
  | log command => cases command <;> first | rfl | cases h
  | _ => rfl

/-- The handler that does not break off has the same name. -/
theorem receiver_steadied (t : Turn) (h : b.receiver = b'.receiver) :
    (t.steadied.next b).receiver = (t.next b').receiver := by
  simp only [Bench.receiver, handler_next, handlerAfter] at h ⊢
  obtain ⟨host, c⟩ := t
  cases c with
  | log command => cases command <;> first | exact h | rfl
  | _ => exact h

end Turn

/-- Handlers that break off are sent the same as if they did not, and so are all others. -/
theorem eventsOf_steadied (hb : unheard b = unheard b') (hreceiver : b.receiver = b'.receiver)
    (turns : List Turn) : eventsOf b (turns.map Turn.steadied) = eventsOf b' turns := by
  induction turns generalizing b b' with
  | nil => rfl
  | cons t turns ih =>
    have hnext : unheard (t.steadied.next b) = unheard (t.next b') := by
      cases h : t.changesHandler with
      | false =>
        rw [t.steadied_eq_self h]
        exact t.unheard_next hb
      | true =>
        have hsteadied := t.changesHandler_steadied.trans h
        rw [(t.steadied.next_of_changesHandler hsteadied b).1,
          (t.next_of_changesHandler h b').1, hb]
    have hevents : t.steadied.events b = t.events b' := by
      cases h : t.changesHandler with
      | false =>
        rw [t.steadied_eq_self h, t.events_sentTo h b, t.events_sentTo h b', hb, hreceiver]
      | true =>
        have hsteadied := t.changesHandler_steadied.trans h
        rw [(t.steadied.next_of_changesHandler hsteadied b).2, (t.next_of_changesHandler h b').2]
    rw [List.map_cons, eventsOf_cons, eventsOf_cons, hevents,
      ih hnext (t.receiver_steadied hreceiver)]

/-- Handlers only listen: what they are to a run of turns from a bench. -/
structure OnlyListen (b : Bench) (turns : List Turn) : Prop where
  /-- Wherever a message is given, it is sent once, to the handler that is installed there or to the
  default sink. Nothing else changes: that handler stays, and who gave the message goes on. -/
  given : ∀ (host : Host) (w : World) (level : LogLevel) (text : String),
    (log level text).run host w =
      ((), { w with history := .message (w.handler.map Handler.name) level text :: w.history })
  /-- A handler that breaks off has been sent the message like any other. -/
  received : ∀ (host : Host) (w : World) (level : LogLevel) (text : String),
    (deliver level text).run host w =
      (if w.handler.any Handler.breaksOff then .brokenOff else .completed,
        ((log level text).run host w).2)
  /-- A turn that gives a message sends that and no other, to the handler that is installed. -/
  said : ∀ earlier host level text later,
    turns = earlier ++ ⟨host, .log (.message level text)⟩ :: later →
    let receiver := (handlerAfter b.handler earlier).map Handler.name
    Turn.events (after b earlier) ⟨host, .log (.message level text)⟩ =
      [.message receiver level text]
  /-- All other answers are the same as in any run with other changes of the handler. -/
  answers : ∀ turns', operations turns' = operations turns → answersOf b turns' = answersOf b turns
  /-- So are the messages. -/
  messages : ∀ turns', operations turns' = operations turns →
    messagesOf (eventsOf b turns') = messagesOf (eventsOf b turns)
  /-- So is everything else that happens, and what the run leaves behind. -/
  others : ∀ turns', operations turns' = operations turns →
    unaddressed (eventsOf b turns') = unaddressed (eventsOf b turns) ∧
      unheard (after b turns') = unheard (after b turns)
  /-- So is the teardown. -/
  teardown : ∀ turns', operations turns' = operations turns → ∀ host,
    unaddressed (finalEvents host (after b turns')) =
      unaddressed (finalEvents host (after b turns))
  /-- The handler is the last that was installed, unless it was taken away since. -/
  installed : ∀ earlier later, turns = earlier ++ later →
    (after b earlier).handler = handlerAfter b.handler earlier
  /-- What a turn says if nobody listens goes to this handler, each message once and in order. -/
  delivered : ∀ earlier t later, turns = earlier ++ t :: later →
    let receiver := (handlerAfter b.handler earlier).map Handler.name
    deliveriesOf (t.events (after b earlier)) =
      (messagesOf (t.events (unheard (after b earlier)))).map (Prod.mk receiver)
  /-- So does what the teardown says, to the handler that is left. -/
  deliveredLast : ∀ host, let receiver := (handlerAfter b.handler turns).map Handler.name
    deliveriesOf (finalEvents host (after b turns)) =
      (messagesOf (finalEvents host (unheard (after b turns)))).map (Prod.mk receiver)
  /-- So all that a run says to nobody is delivered once, and in this order. -/
  inOrder : (deliveriesOf (eventsOf b turns)).map Prod.snd =
    messagesOf (eventsOf (unheard b) (operations turns))
  /-- No message is lost or redirected because handlers break off, the first one included. -/
  steady : ∀ b', unheard b' = unheard b → b'.receiver = b.receiver →
    eventsOf b' (turns.map Turn.steadied) = eventsOf b turns

/-- Logging only observes. -/
theorem handlers_only_listen (b : Bench) (turns : List Turn) : OnlyListen b turns := by
  constructor
  case given => exact fun host w level text => rfl
  case received => exact fun host w level text => rfl
  case said =>
    intro earlier host level text later _ receiver
    rw [events_message]
    exact congrArg (fun receiver => [Event.message receiver level text])
      (receiver_after b earlier)
  case answers => exact fun turns' h => (sameRun_of_operations_eq h b).answers
  case messages => exact fun turns' h => (sameRun_of_operations_eq h b).messages
  case others =>
    intro turns' h
    have hsame := sameRun_of_operations_eq h b
    exact ⟨hsame.events, hsame.left⟩
  case teardown =>
    intro turns' h host
    have hleft := (sameRun_of_operations_eq h b).left
    rw [finalEvents_sentTo, finalEvents_sentTo host (after b turns), unaddressed_sentTo,
      unaddressed_sentTo, hleft]
  case installed => exact fun earlier _ _ => handler_after b earlier
  case delivered =>
    intro earlier t later _ receiver
    rw [t.deliveriesOf_events, receiver_after]
  case deliveredLast =>
    intro host receiver
    rw [finalEvents_sentTo, deliveriesOf_sentTo, receiver_after]
  case inOrder =>
    have hquiet : unheard b = unheard (unheard b) := rfl
    rw [map_snd_deliveriesOf, (sameRun_operations b turns).messages]
    exact (sameRun_of_unheard hquiet _).messages
  case steady => exact fun _ hquiet hreceiver => eventsOf_steadied hquiet hreceiver turns

end Scenario

end NativeBinding
