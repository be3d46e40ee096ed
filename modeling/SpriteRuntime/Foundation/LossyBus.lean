import Mathlib.Data.List.Induction
import Mathlib.Order.BooleanAlgebra.Basic
import Mathlib.Logic.Function.Basic

/-!
# Switches on a lossy bus

Nodes that are on or off share channels.  What is sent to a channel reaches its nodes in order
and their replies are received in order, but everything may be delayed or lost.  The timeline of a
node lists the statuses that are still to be heard of, the one it has and the ones it has been
told to take; what was sent and received so far bounds the timelines that are possible.
-/

namespace Foundation

/-- Nodes on channels, with what a command makes of a node and what a reply says about one.  A
reply speaks of one node of its channel. -/
structure SwitchBus (Channel Node Command Reply : Type) where
  home : Node → Channel
  effect : Node → Command → Option Bool
  tells : Node → Reply → Option Bool
  distinct : ∀ left right reply, home left = home right → (tells left reply).isSome →
    (tells right reply).isSome → left = right

/-- A frame that is handed to a channel or taken from it. -/
inductive BusAction (Channel Command Reply : Type) where
  | send (channel : Channel) (command : Command)
  | receive (channel : Channel) (reply : Reply)

/-- The nodes, and what is under way on every channel, oldest first. -/
structure BusState (Channel Node Command Reply : Type) where
  on : Node → Bool
  commands : Channel → List Command
  replies : Channel → List Reply

namespace BusState

variable {Channel Node Command Reply : Type} [DecidableEq Channel]
  (state : BusState Channel Node Command Reply) (channel : Channel)

def setCommands (commands : List Command) : BusState Channel Node Command Reply :=
  { state with commands := Function.update state.commands channel commands }

def setReplies (replies : List Reply) : BusState Channel Node Command Reply :=
  { state with replies := Function.update state.replies channel replies }

end BusState

section Statuses

/-- What holds of a list of statuses holds when some are passed over or repeated. -/
structure Stable (holds : List Bool → Prop) : Prop where
  sublist : ∀ {shorter longer : List Bool}, shorter.Sublist longer → holds longer → holds shorter
  stutter : ∀ {front : List Bool} {status : Bool} {back : List Bool},
    holds (front ++ status :: back) → holds (front ++ status :: status :: back)

/-- The statuses never go from on to off. -/
def OnlyRises (statuses : List Bool) : Prop := statuses.Pairwise (· ≤ ·)

/-- The statuses never go from off to on. -/
def OnlyFalls (statuses : List Bool) : Prop := statuses.Pairwise (· ≥ ·)

/-- All statuses are the same one. -/
def Only (status : Bool) (statuses : List Bool) : Prop := ∀ other ∈ statuses, other = status

theorem stable_pairwise {related : Bool → Bool → Prop} (refl : ∀ status, related status status) :
    Stable fun statuses => statuses.Pairwise related where
  sublist := List.Pairwise.sublist
  stutter := by
    intro front status back pairs
    simp only [List.pairwise_append, List.pairwise_cons, List.mem_cons] at pairs ⊢
    grind

/-- The statuses go to the given one: it may come last, and where it comes first it stays. -/
structure TendsTo (status : Bool) (holds : List Bool → Prop) : Prop extends Stable holds where
  concat : ∀ {statuses : List Bool}, holds statuses → holds (statuses ++ [status])
  settles : ∀ {statuses : List Bool}, holds (status :: statuses) → Only status statuses

theorem onlyRises_tendsTo : TendsTo true OnlyRises where
  toStable := stable_pairwise le_refl
  concat := by
    intro statuses rising
    unfold OnlyRises
    rw [List.pairwise_append]
    exact ⟨rising, List.pairwise_singleton _ _, fun status _ other member => by
      rw [List.mem_singleton.mp member]
      exact Bool.le_true status⟩
  settles rising other member :=
    Bool.eq_true_of_true_le ((List.pairwise_cons.mp rising).1 other member)

theorem onlyFalls_tendsTo : TendsTo false OnlyFalls where
  toStable := stable_pairwise le_refl
  concat := by
    intro statuses falling
    unfold OnlyFalls
    rw [List.pairwise_append]
    exact ⟨falling, List.pairwise_singleton _ _, fun status _ other member => by
      rw [List.mem_singleton.mp member]
      exact Bool.false_le status⟩
  settles falling other member :=
    Bool.eq_false_of_le_false ((List.pairwise_cons.mp falling).1 other member)

theorem only_tendsTo (status : Bool) : TendsTo status (Only status) where
  sublist shorter only other member := only other (shorter.subset member)
  stutter only other member := only other (by simpa using member)
  concat := by
    intro statuses only other member
    rcases List.mem_append.mp member with earlier | last
    · exact only other earlier
    · exact List.mem_singleton.mp last
  settles only other member := only other (List.mem_cons_of_mem status member)

theorem Only.falling {status : Bool} {statuses : List Bool} (only : Only status statuses) :
    OnlyFalls statuses :=
  List.Pairwise.imp_of_mem (R := fun _ _ => True)
    (fun left right _ => by rw [only _ left, only _ right]) (List.pairwise_of_forall fun _ _ => trivial)

end Statuses

namespace SwitchBus

variable {Channel Node Command Reply : Type} [DecidableEq Channel]
  (bus : SwitchBus Channel Node Command Reply)

/-- The nodes of a channel take the status that a command gives them. -/
def follow (state : BusState Channel Node Command Reply) (channel : Channel) (command : Command)
    (node : Node) : Bool :=
  if bus.home node = channel then (bus.effect node command).getD (state.on node)
  else state.on node

/-- One thing that happens on the bus, with the action of the controller if it is one.  A node may
answer at any time, and always with the status it has; what speaks of no node may arrive at any
time too. -/
inductive Step : BusState Channel Node Command Reply →
    Option (BusAction Channel Command Reply) → BusState Channel Node Command Reply → Prop
  | send (state : BusState Channel Node Command Reply) (channel : Channel) (command : Command) :
      Step state (some (.send channel command))
        (state.setCommands channel (state.commands channel ++ [command]))
  | receive (state : BusState Channel Node Command Reply) (channel : Channel) (reply : Reply)
      (later : List Reply) (oldest : state.replies channel = reply :: later) :
      Step state (some (.receive channel reply)) (state.setReplies channel later)
  | deliver (state : BusState Channel Node Command Reply) (channel : Channel) (command : Command)
      (later : List Command) (oldest : state.commands channel = command :: later) :
      Step state none
        { state.setCommands channel later with on := bus.follow state channel command }
  | answer (state : BusState Channel Node Command Reply) (node : Node) (reply : Reply)
      (truthful : bus.tells node reply = some (state.on node)) :
      Step state none
        (state.setReplies (bus.home node) (state.replies (bus.home node) ++ [reply]))
  | noise (state : BusState Channel Node Command Reply) (channel : Channel) (reply : Reply)
      (silent : ∀ node, bus.home node = channel → bus.tells node reply = none) :
      Step state none (state.setReplies channel (state.replies channel ++ [reply]))
  | loseCommand (state : BusState Channel Node Command Reply) (channel : Channel)
      (before : List Command) (command : Command) (after : List Command)
      (underway : state.commands channel = before ++ command :: after) :
      Step state none (state.setCommands channel (before ++ after))
  | loseReply (state : BusState Channel Node Command Reply) (channel : Channel)
      (before : List Reply) (reply : Reply) (after : List Reply)
      (underway : state.replies channel = before ++ reply :: after) :
      Step state none (state.setReplies channel (before ++ after))

/-- A run of the bus with the actions of the controller in it. -/
inductive Run (start : BusState Channel Node Command Reply) :
    List (BusAction Channel Command Reply) → BusState Channel Node Command Reply → Prop
  | refl : Run start [] start
  | step {actions : List (BusAction Channel Command Reply)}
      {action : Option (BusAction Channel Command Reply)}
      {middle final : BusState Channel Node Command Reply} (run : Run start actions middle)
      (last : bus.Step middle action final) : Run start (actions ++ action.toList) final

/-- The statuses of a node that are still to be heard of, the one it has, and the ones it has been
told to take. -/
def timeline (state : BusState Channel Node Command Reply) (node : Node) : List Bool :=
  (state.replies (bus.home node)).filterMap (bus.tells node) ++
    state.on node :: (state.commands (bus.home node)).filterMap (bus.effect node)

/-- No node is still to be heard of, or told, to go from on to off. -/
def Calm (state : BusState Channel Node Command Reply) : Prop :=
  ∀ node, OnlyRises (bus.timeline state node)

/-- The actions of the controller leave a node only such timelines, whatever else happens. -/
def Knows (node : Node) (actions : List (BusAction Channel Command Reply))
    (holds : List Bool → Prop) : Prop :=
  ∀ start final, bus.Calm start → bus.Run start actions final → holds (bus.timeline final node)

/-- What an action does to the timeline of a node. -/
def Advances (node : Node) :
    BusAction Channel Command Reply → List Bool → List Bool → Prop
  | .send channel command, before, after =>
      if bus.home node = channel then after = before ++ (bus.effect node command).toList
      else after = before
  | .receive channel reply, before, after =>
      if bus.home node = channel then before = (bus.tells node reply).toList ++ after
      else after = before

variable {bus} {node : Node} {before after start final : BusState Channel Node Command Reply}
  {holds holds' : List Bool → Prop} {actions : List (BusAction Channel Command Reply)}

omit [DecidableEq Channel] in
/-- Nothing under way is calm. -/
theorem calm_of_idle (commands : ∀ channel, start.commands channel = [])
    (replies : ∀ channel, start.replies channel = []) : bus.Calm start := by
  intro node
  simp [timeline, commands, replies, OnlyRises]

theorem timeline_setCommands (state : BusState Channel Node Command Reply) (channel : Channel)
    (commands : List Command) : bus.timeline (state.setCommands channel commands) node =
      (state.replies (bus.home node)).filterMap (bus.tells node) ++ state.on node ::
        (if bus.home node = channel then commands else state.commands (bus.home node)).filterMap
          (bus.effect node) := by
  simp only [timeline, BusState.setCommands, Function.update_apply]

theorem timeline_setReplies (state : BusState Channel Node Command Reply) (channel : Channel)
    (replies : List Reply) : bus.timeline (state.setReplies channel replies) node =
      (if bus.home node = channel then replies else state.replies (bus.home node)).filterMap
          (bus.tells node) ++
        state.on node :: (state.commands (bus.home node)).filterMap (bus.effect node) := by
  simp only [timeline, BusState.setReplies, Function.update_apply]

/-- What happens without the controller lets statuses be passed over or repeated. -/
theorem Step.silent (step : bus.Step before none after) (stable : Stable holds)
    (known : holds (bus.timeline before node)) : holds (bus.timeline after node) := by
  cases step with
  | deliver channel command later oldest =>
      by_cases here : bus.home node = channel
      · subst here
        have told : bus.timeline { before.setCommands (bus.home node) later with
            on := bus.follow before (bus.home node) command } node =
              (before.replies (bus.home node)).filterMap (bus.tells node) ++
                (bus.effect node command).getD (before.on node) ::
                  later.filterMap (bus.effect node) := by
          simp [timeline, BusState.setCommands, follow]
        refine told ▸ stable.sublist ?_ known
        rw [timeline, oldest]
        apply List.Sublist.append_left
        cases taken : bus.effect node command with
        | none => simp [taken]
        | some status => simp [taken]
      · have elsewhere : bus.timeline { before.setCommands channel later with
            on := bus.follow before channel command } node = bus.timeline before node := by
          simp [timeline, BusState.setCommands, follow, here]
        exact elsewhere ▸ known
  | answer other reply truthful =>
      rw [timeline_setReplies]
      split
      next together =>
          rw [List.filterMap_append, ← together]
          cases said : bus.tells node reply with
          | none => simpa [said, timeline] using known
          | some status =>
              have same := bus.distinct node other reply together (by simp [said])
                (by simp [truthful])
              subst same
              cases truthful.symm.trans said
              simpa [truthful, timeline] using stable.stutter known
      · exact known
  | noise channel reply silent =>
      rw [timeline_setReplies]
      split
      next here => simpa [silent node here, ← here, timeline] using known
      · exact known
  | loseCommand channel earlier command later underway =>
      rw [timeline_setCommands]
      refine stable.sublist ?_ known
      rw [timeline]
      split
      next here =>
          rw [here, underway]
          exact .append_left (.cons_cons _ (.filterMap _ (.append_left (.cons _ (.refl _)) _))) _
      · exact .refl _
  | loseReply channel earlier reply later underway =>
      rw [timeline_setReplies]
      refine stable.sublist ?_ known
      rw [timeline]
      split
      next here =>
          rw [here, underway]
          exact .append_right (.filterMap _ (.append_left (.cons _ (.refl _)) _)) _
      · exact .refl _

/-- What the controller does advances the timelines. -/
theorem Step.advances {action : BusAction Channel Command Reply}
    (step : bus.Step before (some action) after) :
    bus.Advances node action (bus.timeline before node) (bus.timeline after node) := by
  cases step with
  | send channel command =>
      rw [timeline_setCommands]
      by_cases here : bus.home node = channel
      · subst here
        cases told : bus.effect node command <;> simp [Advances, timeline, told]
      · simp [Advances, timeline, here]
  | receive channel reply later oldest =>
      rw [timeline_setReplies]
      by_cases here : bus.home node = channel
      · subst here
        cases said : bus.tells node reply <;> simp [Advances, timeline, oldest, said]
      · simp [Advances, timeline, here]

namespace Knows

/-- What is known stays known while nothing is done. -/
theorem nil : bus.Knows node [] OnlyRises := by
  intro start final calm run
  generalize nothing : ([] : List (BusAction Channel Command Reply)) = actions at run
  induction run with
  | refl => exact calm node
  | @step earlier action middle final run last induction =>
      obtain ⟨rfl, none⟩ := List.append_eq_nil_iff.mp nothing.symm
      cases action with
      | some action => cases none
      | none => exact last.silent onlyRises_tendsTo.toStable (induction rfl)

theorem mono (known : bus.Knows node actions holds)
    (weaker : ∀ statuses, holds statuses → holds' statuses) : bus.Knows node actions holds' :=
  fun start final calm run => weaker _ (known start final calm run)

/-- The rule for an action. -/
theorem act (known : bus.Knows node actions holds) (stable : Stable holds')
    {action : BusAction Channel Command Reply}
    (step : ∀ before after, bus.Advances node action before after → holds before →
      holds' after) : bus.Knows node (actions ++ [action]) holds' := by
  intro start final calm run
  generalize grown : actions ++ [action] = all at run
  induction run with
  | refl => simp at grown
  | @step earlier other middle final run last induction =>
      cases other with
      | none =>
          rw [Option.toList_none, List.append_nil] at grown
          exact last.silent stable (induction grown)
      | some other =>
          obtain ⟨rfl, same⟩ := List.append_inj' grown rfl
          cases same
          exact step _ _ last.advances (known start middle calm run)

end Knows

/-- The action keeps what is known of the timelines of a node. -/
def Keeps (bus : SwitchBus Channel Node Command Reply) (node : Node)
    (action : BusAction Channel Command Reply) (holds : List Bool → Prop) : Prop :=
  ∀ before after, bus.Advances node action before after → holds before → holds after

/-- The action tells a node to take a status. -/
def Commands (bus : SwitchBus Channel Node Command Reply) (node : Node)
    (action : BusAction Channel Command Reply) (status : Bool) : Prop :=
  ∃ command, action = .send (bus.home node) command ∧ bus.effect node command = some status

/-- A property is kept by what commands nothing but a status that may come last. -/
theorem keeps_of_tendsTo {status : Bool} (tends : TendsTo status holds)
    {action : BusAction Channel Command Reply} (never : ¬bus.Commands node action (!status)) :
    bus.Keeps node action holds := by
  intro before after advances known
  cases action with
  | send channel command =>
      simp only [Advances] at advances
      split at advances
      next here =>
          rw [advances]
          cases told : bus.effect node command with
          | none => simpa using known
          | some other =>
              have same : other = status := by
                by_contra differs
                refine never ⟨command, by rw [here], ?_⟩
                rw [told, Bool.eq_not_of_ne differs]
              exact same ▸ tends.concat known
      · exact advances ▸ known
  | receive channel reply =>
      simp only [Advances] at advances
      split at advances
      · exact tends.sublist (List.sublist_append_right _ _) (advances ▸ known)
      · exact advances ▸ known

/-! ### Nodes that nobody commands -/

/-- A node has a status, and nothing that is under way tells it to take the other one. -/
def Settled (bus : SwitchBus Channel Node Command Reply) (status : Bool)
    (state : BusState Channel Node Command Reply) (node : Node) : Prop :=
  Only status (state.on node :: (state.commands (bus.home node)).filterMap (bus.effect node))

omit [DecidableEq Channel] in
theorem settled_iff {status : Bool} {state : BusState Channel Node Command Reply} :
    bus.Settled status state node ↔ state.on node = status ∧
      ∀ command ∈ state.commands (bus.home node), ∀ told, bus.effect node command = some told →
        told = status := by
  simp only [Settled, Only, List.mem_cons, List.mem_filterMap, forall_eq_or_imp]
  constructor
  · rintro ⟨here, underway⟩
    exact ⟨here, fun command member told effect => underway told ⟨command, member, effect⟩⟩
  · rintro ⟨here, underway⟩
    refine ⟨here, ?_⟩
    rintro told ⟨command, member, effect⟩
    exact underway command member told effect

theorem Step.settled {status : Bool} {action : Option (BusAction Channel Command Reply)}
    (step : bus.Step before action after)
    (never : ∀ taken ∈ action, ¬bus.Commands node taken (!status))
    (settled : bus.Settled status before node) : bus.Settled status after node := by
  rw [settled_iff] at settled ⊢
  obtain ⟨here, underway⟩ := settled
  cases step with
  | send channel command =>
      refine ⟨here, fun other member told effect => ?_⟩
      simp only [BusState.setCommands, Function.update_apply] at member
      split at member
      next same =>
          rcases List.mem_append.mp member with earlier | last
          · exact underway other (same ▸ earlier) told effect
          · obtain rfl := List.mem_singleton.mp last
            by_contra differs
            refine never _ rfl ⟨other, by rw [same], ?_⟩
            rw [effect, Bool.eq_not_of_ne differs]
      · exact underway other member told effect
  | receive channel reply later oldest => exact ⟨here, underway⟩
  | deliver channel command later oldest =>
      have rest : ∀ other ∈ Function.update before.commands channel later (bus.home node),
          other ∈ before.commands (bus.home node) := by
        intro other member
        rw [Function.update_apply] at member
        split at member
        next same =>
            rw [same, oldest]
            exact List.mem_cons_of_mem command member
        · exact member
      refine ⟨?_, fun other member => underway other (rest other member)⟩
      show bus.follow before channel command node = status
      unfold follow
      split
      next same =>
          cases told : bus.effect node command with
          | none => exact here
          | some other =>
              refine underway command ?_ other told
              rw [same, oldest]
              exact List.mem_cons_self
      · exact here
  | answer other reply truthful => exact ⟨here, underway⟩
  | noise channel reply silent => exact ⟨here, underway⟩
  | loseCommand channel earlier command later lost =>
      refine ⟨here, fun other member => underway other ?_⟩
      simp only [BusState.setCommands, Function.update_apply] at member
      split at member
      next same =>
          rw [same, lost]
          rcases List.mem_append.mp member with first | last
          · exact List.mem_append_left _ first
          · exact List.mem_append_right _ (List.mem_cons_of_mem command last)
      · exact member
  | loseReply channel earlier reply later lost => exact ⟨here, underway⟩

/-- A node keeps its status as long as nobody tells it to take the other one. -/
theorem Run.settled {status : Bool} (run : bus.Run start actions final)
    (never : ∀ action ∈ actions, ¬bus.Commands node action (!status))
    (settled : bus.Settled status start node) : bus.Settled status final node := by
  induction run with
  | refl => exact settled
  | step run last induction =>
      have earlier := induction fun action member => never action (List.mem_append_left _ member)
      exact last.settled (fun taken acted => never taken
        (List.mem_append_right _ (Option.mem_toList.mpr acted))) earlier

section Logs

variable {τ : Type} (act : τ → Option (BusAction Channel Command Reply)) {log suffix : List τ}

/-- What a log with actions in it lets know of a node. -/
def KnowsFrom (bus : SwitchBus Channel Node Command Reply) (node : Node) (log : List τ)
    (holds : List Bool → Prop) : Prop :=
  bus.Knows node (log.filterMap act) holds

namespace KnowsFrom

variable {act}

theorem nil : bus.KnowsFrom act node [] OnlyRises := Knows.nil

theorem mono (known : bus.KnowsFrom act node log holds)
    (weaker : ∀ statuses, holds statuses → holds' statuses) : bus.KnowsFrom act node log holds' :=
  Knows.mono known weaker

/-- The log may grow by what does not command the other status. -/
theorem append {status : Bool} (known : bus.KnowsFrom act node log holds)
    (tends : TendsTo status holds)
    (never : ∀ entry ∈ suffix, ∀ action ∈ act entry, ¬bus.Commands node action (!status)) :
    bus.KnowsFrom act node (log ++ suffix) holds := by
  induction suffix using List.reverseRecOn with
  | nil => simpa using known
  | append_singleton suffix entry induction =>
      have earlier := induction fun other member => never other (by simp [member])
      unfold KnowsFrom at earlier ⊢
      rw [← List.append_assoc, List.filterMap_append]
      cases acted : act entry with
      | none => simpa [acted] using earlier
      | some action =>
          have kept := keeps_of_tendsTo tends (never entry (by simp) action acted)
          simpa [acted] using earlier.act tends.toStable kept

/-- Once a node has reported the status to which its statuses go, it has no other. -/
theorem hear {status : Bool} (known : bus.KnowsFrom act node log holds)
    (tends : TendsTo status holds) {entry : τ} {reply : Reply}
    (heard : act entry = some (.receive (bus.home node) reply))
    (said : bus.tells node reply = some status) :
    bus.KnowsFrom act node (log ++ [entry]) (Only status) := by
  unfold KnowsFrom at known ⊢
  rw [List.filterMap_append, List.filterMap_cons_some heard, List.filterMap_nil]
  refine known.act (only_tendsTo status).toStable fun before after advances holding => ?_
  simp only [Advances, if_true, said, Option.toList_some, List.singleton_append] at advances
  exact tends.settles (advances ▸ holding)

end KnowsFrom

/-- The node is off, and nothing under way turns it on. -/
def Off (bus : SwitchBus Channel Node Command Reply)
    (state : BusState Channel Node Command Reply) (node : Node) : Prop :=
  state.on node = false ∧
    ∀ command ∈ state.commands (bus.home node), bus.effect node command ≠ some true

/-- Whatever is lost or delayed on a bus that begins calm, the node is off in the end. -/
def LeavesOff (bus : SwitchBus Channel Node Command Reply)
    (act : τ → Option (BusAction Channel Command Reply)) (log : List τ) (node : Node) : Prop :=
  ∀ start final, bus.Calm start → bus.Run start (log.filterMap act) final → bus.Off final node

/-- A node that is known to be off is off. -/
theorem KnowsFrom.leavesOff {act : τ → Option (BusAction Channel Command Reply)}
    (known : bus.KnowsFrom act node log (Only false)) : bus.LeavesOff act log node := by
  intro start final calm run
  have only := known start final calm run
  constructor
  · exact only _ (by simp [timeline])
  · intro command underway on
    have later : true ∈ bus.timeline final node := by
      simp only [timeline, List.mem_append, List.mem_cons, List.mem_filterMap]
      exact .inr (.inr ⟨command, underway, on⟩)
    cases only true later

end Logs

end SwitchBus

end Foundation
