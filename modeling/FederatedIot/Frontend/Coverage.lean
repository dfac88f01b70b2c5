import FederatedIot.Frontend.Projection

namespace FederatedIot
namespace Frontend

open Foundation Foundation.Relation Live

/-!
# The cursor stays covered

The invariant of the whole system.  The cursor of the store is covered, every
stream rises, no handle is given out twice, and whatever terminal status an
event on a stream carries, the row of its run has it.
-/

/-! ## Covered identifiers -/

/-- What a subscription has reached: its cursor, until its stream is there. -/
def reachedBy (channels : List Channel) (ticket : Ticket) : Int :=
  match channels.find? fun channel => channel.handle = ticket.handle with
  | some channel => channel.reached
  | none => (ticket.lastEventId.getD 0 : Nat)

/-- At most an event that the store was handed, or at most what every live
stream of the selected run has reached. -/
def Covers (seen : List Nat) (channels : List Channel) (track : Track) (id : Nat) : Prop :=
  (∃ earlier ∈ seen, id ≤ earlier) ∨
    ∀ ticket ∈ track.live, some ticket.runId = track.runId -> (id : Int) ≤ reachedBy channels ticket

def Delivery.Covered (state : Delivery) (id : Nat) : Prop :=
  Covers state.seen state.channels state.page.track id

/-- The identifier of a frame that the page reads for its selected run: an event
has an exact one, and one of a heartbeat is exact and covered. -/
def Frame.Timely (state : Delivery) : Frame -> Prop
  | .persisted event => event.eventId < exactIntegers
  | .reset _ _ => True
  | .heartbeat latest _ => latest.toNat < exactIntegers ∧ state.Covered latest.toNat

/-- No heartbeat and no refresh brings an identifier that is not covered. -/
def Timely (state : Delivery) : DeliveryLabel -> Prop
  | .page label => forall refresh detail id, Completes state.page label refresh detail ->
      detail.latestEventId = some id -> id < exactIntegers ∧ state.Covered id
  | .frameArrives handle => ∀ stream ∈ state.page.subscriptions, stream.handle = handle ->
      some stream.runId = state.page.state.runId -> ∀ channel ∈ state.channels,
        channel.handle = handle -> forall frame, channel.next? = some frame -> Frame.Timely state frame
  | _ => True

section

variable {seen more : List Nat} {channels later : List Channel} {track : Track} {id : Nat}
  {ticket : Ticket}

theorem Covers.mono {live : List Ticket} (covers : Covers seen channels track id)
    (handed : seen ⊆ more) (fewer : live ⊆ track.live)
    (forward : ∀ ticket ∈ live, reachedBy channels ticket ≤ reachedBy later ticket)
    (lastEventId : Option Nat) : Covers more later { track with live := live, lastEventId := lastEventId } id := by
  rcases covers with ⟨earlier, member, upTo⟩ | reached
  · exact Or.inl ⟨earlier, handed member, upTo⟩
  · right
    intro ticket member selected
    exact (reached ticket (fewer member) selected).trans (forward ticket member)

theorem Covers.le {smaller : Nat} (covers : Covers seen channels track id) (below : smaller ≤ id) :
    Covers seen channels track smaller := by
  rcases covers with ⟨earlier, member, upTo⟩ | reached
  · exact Or.inl ⟨earlier, member, below.trans upTo⟩
  · right
    intro ticket member selected
    have least : (smaller : Int) ≤ id := by exact_mod_cast below
    exact least.trans (reached ticket member selected)

/-- What a change makes of the channel of a ticket. -/
theorem find?_update {handle : Nat} {change : Channel -> Channel}
    (fixed : forall channel, (change channel).handle = channel.handle) :
    (update channels (fun other => other.handle = handle) change).find?
        (fun channel => channel.handle = ticket.handle) =
      (channels.find? fun channel => channel.handle = ticket.handle).map fun channel =>
        if channel.handle = handle then change channel else channel := by
  unfold update
  rw [List.find?_map]
  congr 1
  · funext channel
    simp only [decide_eq_true_eq]
  · congr 1
    funext channel
    simp only [Function.comp_apply]
    split
    · rw [fixed channel]
    · rfl

/-- Changes that lose no ground on their channels lose none for a subscription. -/
theorem reachedBy_update {handle : Nat} {change : Channel -> Channel}
    (fixed : forall channel, (change channel).handle = channel.handle)
    (forward : ∀ channel ∈ channels, channel.handle = handle ->
      channel.reached ≤ (change channel).reached) (ticket : Ticket) :
    reachedBy channels ticket ≤
      reachedBy (update channels (fun other => other.handle = handle) change) ticket := by
  unfold reachedBy
  rw [find?_update fixed]
  cases found : channels.find? fun channel => channel.handle = ticket.handle with
  | none => exact Int.le_refl _
  | some channel =>
      change channel.reached ≤ (if channel.handle = handle then change channel else channel).reached
      split
      · rename_i same
        exact forward channel (List.mem_of_find?_eq_some found) same
      · exact Int.le_refl _

theorem reachedBy_of_mem (keyed : Keyed Channel.handle channels) {channel : Channel}
    (member : channel ∈ channels) (same : channel.handle = ticket.handle) :
    reachedBy channels ticket = channel.reached := by
  unfold reachedBy
  cases found : channels.find? fun channel => channel.handle = ticket.handle with
  | none =>
      have absent := List.find?_eq_none.mp found channel member
      exact absurd (decide_eq_true same) absent
  | some other =>
      have matched := List.find?_some found
      rw [keyed.eq_of_mem (List.mem_of_find?_eq_some found) member
        ((of_decide_eq_true matched).trans same.symm)]

end

/-! ## The invariant -/

/-- A stream rises, the page reads what is written on it, and its events are
testified by the rows of their runs. -/
structure Channel.Sound (simulations : List Queue.Simulation) (channel : Channel) : Prop where
  read : channel.delivered ≤ channel.connection.written.length
  climbs : channel.connection.Climbs
  testified : ∀ event ∈ sentEvents channel.connection.written,
    Queue.Testified simulations channel.connection.runId event.payloadJson

/-- Every handle was given out by the page, and no two streams share one. -/
structure Issued (state : Delivery) : Prop where
  channelKeys : Keyed Channel.handle state.channels
  ticketKeys : Keyed Ticket.handle state.page.track.live
  channels : ∀ channel ∈ state.channels, channel.handle < state.page.nextHandle
  tickets : ∀ ticket ∈ state.page.track.live, ticket.handle < state.page.nextHandle
  refreshes : ∀ refresh ∈ state.page.refreshes, refresh.handle < state.page.nextHandle
  answers : ∀ answer ∈ state.answers, answer.handle < state.page.nextHandle

/-- What every step keeps. -/
structure Sound (platform : Queue.Platform) (state : Delivery) : Prop where
  reachable : Queue.Reachable platform state.store
  issued : Issued state
  named : ∀ ticket ∈ state.page.track.live, ticket.runId ≠ ""
  exactCursors : ∀ ticket ∈ state.page.track.live, ticket.lastEventId.getD 0 < exactIntegers
  channels : ∀ channel ∈ state.channels, channel.Sound state.store.tables.simulations
  sameRun : ∀ channel ∈ state.channels, ∀ ticket ∈ state.page.track.live,
    ticket.handle = channel.handle -> ticket.runId = channel.connection.runId
  covered : forall id, state.page.track.lastEventId = some id -> id < exactIntegers ∧ state.Covered id

section

variable {platform : Queue.Platform} {state : Delivery}

theorem Channel.Sound.stays {store result : Queue.Store} {channel : Channel}
    (sound : channel.Sound store.tables.simulations) (witnessed : Queue.Witnessed store result) :
    channel.Sound result.tables.simulations where
  read := sound.read
  climbs := sound.climbs
  testified := fun event member status terminal carried =>
    witnessed.stays _ status terminal (sound.testified event member status terminal carried)

/-- Transactions of the queue leave the page and the streams alone. -/
theorem Sound.database {call : Queue.Call} {store : Queue.Store} (sound : Sound platform state)
    (transaction : Queue.Transaction platform state.store call store) :
    Sound platform { state with store := store } where
  reachable := sound.reachable.step transaction
  issued :=
    { channelKeys := sound.issued.channelKeys, ticketKeys := sound.issued.ticketKeys
      channels := sound.issued.channels, tickets := sound.issued.tickets
      refreshes := sound.issued.refreshes, answers := sound.issued.answers }
  named := sound.named
  exactCursors := sound.exactCursors
  channels := fun channel member =>
    (sound.channels channel member).stays (transaction.witnessed sound.reachable)
  sameRun := sound.sameRun
  covered := sound.covered

/-- A page that moves on: its subscriptions are old ones, or a new one that
resumes from the cursor. -/
theorem Sound.move {page : Page} {seen : List Nat} {arrived : Nat -> SimulationDetail -> Prop}
    (sound : Sound platform state) (carries : Carries state.page page arrived)
    (tickets : ∀ ticket ∈ page.track.live, ticket ∈ state.page.track.live ∨
      (ticket.handle = state.page.nextHandle ∧ state.page.nextHandle < page.nextHandle ∧
        ticket.runId ≠ "" ∧ ticket.lastEventId = state.page.track.lastEventId))
    (keys : Keyed Ticket.handle page.track.live)
    (covered : forall id, page.track.lastEventId = some id ->
      id < exactIntegers ∧ Covers seen state.channels page.track id) :
    Sound platform { state with page := page, seen := seen } where
  reachable := sound.reachable
  issued :=
    { channelKeys := sound.issued.channelKeys
      ticketKeys := keys
      channels := fun channel member => (sound.issued.channels channel member).trans_le carries.later
      tickets := by
        intro ticket member
        rcases tickets ticket member with old | ⟨handle, issued, _, _⟩
        · exact (sound.issued.tickets ticket old).trans_le carries.later
        · exact handle.trans_lt issued
      refreshes := by
        intro refresh member
        rcases carries.refreshes refresh member with fresh | ⟨old, pending, same, _, _⟩
        · exact fresh.2
        · rw [← same]
          exact (sound.issued.refreshes old pending).trans_le carries.later
      answers := fun answer member => (sound.issued.answers answer member).trans_le carries.later }
  named := by
    intro ticket member
    rcases tickets ticket member with old | ⟨_, _, named, _⟩
    · exact sound.named ticket old
    · exact named
  exactCursors := by
    intro ticket member
    rcases tickets ticket member with old | ⟨_, _, _, resumed⟩
    · exact sound.exactCursors ticket old
    · rw [resumed]
      cases found : state.page.track.lastEventId with
      | none => exact Nat.two_pow_pos 53
      | some id => exact (sound.covered id found).1
  channels := sound.channels
  sameRun := by
    intro channel member ticket running same
    rcases tickets ticket running with old | ⟨handle, _, _, _⟩
    · exact sound.sameRun channel member ticket old same
    · have known := sound.issued.channels channel member
      rw [← same, handle] at known
      exact absurd known (lt_irrefl _)
  covered := covered

/-- A page that moves on without a new subscription. -/
theorem Sound.keep {page : Page} {seen : List Nat} {arrived : Nat -> SimulationDetail -> Prop}
    (sound : Sound platform state) (carries : Carries state.page page arrived)
    (fewer : page.track.live.Sublist state.page.track.live)
    (covered : forall id, page.track.lastEventId = some id ->
      id < exactIntegers ∧ Covers seen state.channels page.track id) :
    Sound platform { state with page := page, seen := seen } :=
  sound.move carries (fun _ member => Or.inl (fewer.subset member))
    (sound.issued.ticketKeys.sublist (fewer.map Ticket.handle)) covered

/-- The cursor after a refresh whose identifier is covered. -/
theorem covered_of_monotonic {seen : List Nat} {channels : List Channel} {track : Track}
    {previous candidate : Option Nat}
    (before : forall id, previous = some id -> id < exactIntegers ∧ Covers seen channels track id)
    (offered : forall id, candidate = some id -> id < exactIntegers ∧ Covers seen channels track id)
    {id : Nat} (after : monotonicEventId previous candidate = some id) :
    id < exactIntegers ∧ Covers seen channels track id := by
  cases previous with
  | none =>
      cases candidate with
      | none => cases after
      | some offer => exact offered id after
  | some old =>
      cases candidate with
      | none => exact before id after
      | some offer =>
          cases after
          rcases Nat.le_total old offer with rises | stays
          · rw [Nat.max_eq_right rises]
            exact offered offer rfl
          · rw [Nat.max_eq_left stays]
            exact before old rfl

theorem Sound.page {label : PageLabel} {page : Page} (sound : Sound platform state)
    (timely : Timely state (.page label)) (permitted : state.Permits label)
    (performed : state.page.perform label = some page) :
    Sound platform { state with page := page, seen := state.seenAfter label } := by
  have own : forall handle id type data, label ≠ .frameArrives handle id type data := by
    rintro handle id type data rfl
    exact permitted
  have carries := perform_carries (perform_cases performed)
  have handed : label.selects = false -> state.seenAfter label = state.seen := by
    intro unselecting
    unfold Delivery.seenAfter
    rw [unselecting]
    rfl
  cases perform_tracks performed own with
  | kept unselecting same =>
      rw [handed unselecting]
      refine sound.keep carries (by rw [same]) ?_
      rw [same]
      exact sound.covered
  | @fewer unselecting live ended same =>
      rw [handed unselecting]
      refine sound.keep carries (by rw [same]; exact ended) ?_
      rw [same]
      intro id cursor
      have before := sound.covered id cursor
      exact ⟨before.1, before.2.mono (List.Subset.refl _) ended.subset (fun _ _ => Int.le_refl _)
        state.page.track.lastEventId⟩
  | selected selecting closed same =>
      refine sound.keep carries (by rw [same]; exact closed) ?_
      rw [same]
      intro id cursor
      cases cursor
  | @connected unselecting runId named issued same =>
      rw [handed unselecting]
      have added : page.track.live = state.page.track.live ++
          [⟨state.page.nextHandle, runId, state.page.track.lastEventId⟩] := by rw [same]
      refine sound.move carries ?_ ?_ ?_
      · intro ticket member
        rw [added] at member
        rcases List.mem_append.mp member with old | fresh
        · exact Or.inl old
        · cases List.mem_singleton.mp fresh
          exact Or.inr ⟨rfl, issued, named, rfl⟩
      · rw [added]
        unfold Keyed
        rw [List.map_append, List.nodup_append]
        refine ⟨sound.issued.ticketKeys, List.nodup_singleton _, ?_⟩
        intro handle member other fresh same
        rcases List.mem_map.mp member with ⟨ticket, running, rfl⟩
        have known := sound.issued.tickets ticket running
        rw [same, List.mem_singleton.mp fresh] at known
        exact absurd known (lt_irrefl _)
      · intro id cursor
        rw [same] at cursor ⊢
        have before := sound.covered id cursor
        refine ⟨before.1, ?_⟩
        rcases before.2 with ⟨earlier, member, upTo⟩ | reached
        · exact Or.inl ⟨earlier, member, upTo⟩
        · right
          intro ticket member selected
          rcases List.mem_append.mp member with old | fresh
          · exact reached ticket old selected
          · cases List.mem_singleton.mp fresh
            have unopened : state.channels.find?
                (fun channel => channel.handle = state.page.nextHandle) = none := by
              apply List.find?_eq_none.mpr
              intro channel accepted sameHandle
              have known := sound.issued.channels channel accepted
              rw [of_decide_eq_true sameHandle] at known
              exact absurd known (lt_irrefl _)
            have old : state.page.track.lastEventId = some id := cursor
            unfold reachedBy
            simp only [unopened, old]
            exact Int.le_refl _
  | @completed unselecting refresh detail completes same =>
      rw [handed unselecting]
      refine sound.keep carries (by rw [same]) ?_
      rw [same]
      intro id cursor
      exact covered_of_monotonic sound.covered (fun id => timely refresh detail id completes) cursor

/-! ### Streams -/

theorem Issued.subscription_unique (issued : Issued state) {first second : Subscription}
    (firstMember : first ∈ state.page.subscriptions) (secondMember : second ∈ state.page.subscriptions)
    (same : first.handle = second.handle) : first = second := by
  have keyed : Keyed Subscription.handle state.page.subscriptions := by
    have keys := issued.ticketKeys
    unfold Keyed Page.track at keys
    rw [List.map_map] at keys
    exact keys
  exact keyed.eq_of_mem firstMember secondMember same

theorem ticket_mem {page : Page} {stream : Subscription} (running : stream ∈ page.subscriptions) :
    stream.ticket ∈ page.track.live :=
  List.mem_map_of_mem running

theorem Sound.accept {stream : Subscription} {cursor : Int} (sound : Sound platform state)
    (running : stream ∈ state.page.subscriptions) (unaccepted : state.channel? stream.handle = none)
    (sent : SentAs stream.lastEventId cursor) :
    Sound platform { state with channels := state.channels ++ [Channel.opened stream cursor] } := by
  have absent : ∀ channel ∈ state.channels, channel.handle ≠ stream.handle := by
    intro channel member same
    exact List.find?_eq_none.mp unaccepted channel member (decide_eq_true same)
  have alone : ∀ ticket ∈ state.page.track.live, ticket.handle = stream.handle -> ticket = stream.ticket :=
    fun ticket member same => sound.issued.ticketKeys.eq_of_mem member (ticket_mem running) same
  have resumed : cursor = (stream.lastEventId.getD 0 : Nat) :=
    sent (sound.exactCursors stream.ticket (ticket_mem running))
  have forward : ∀ ticket ∈ state.page.track.live, reachedBy state.channels ticket ≤
      reachedBy (state.channels ++ [Channel.opened stream cursor]) ticket := by
    intro ticket member
    unfold reachedBy
    rw [List.find?_append]
    cases found : state.channels.find? fun channel => channel.handle = ticket.handle with
    | some channel => exact Int.le_refl _
    | none =>
        by_cases same : stream.handle = ticket.handle
        · have opened : [Channel.opened stream cursor].find?
              (fun channel => channel.handle = ticket.handle) = some (Channel.opened stream cursor) :=
            List.find?_cons_of_pos (decide_eq_true same)
          rw [alone ticket member same.symm]
          rw [alone ticket member same.symm] at opened
          simp only [opened, Option.none_or]
          exact Int.le_of_eq resumed.symm
        · have passed : [Channel.opened stream cursor].find?
              (fun channel => channel.handle = ticket.handle) = none := by
            apply List.find?_eq_none.mpr
            intro channel member sameHandle
            rw [List.mem_singleton.mp member] at sameHandle
            exact same (of_decide_eq_true sameHandle)
          simp only [passed, Option.none_or]
          exact Int.le_refl _
  refine ⟨sound.reachable, ?_, sound.named, sound.exactCursors, ?_, ?_, ?_⟩
  · refine ⟨?_, sound.issued.ticketKeys, ?_, sound.issued.tickets, sound.issued.refreshes,
      sound.issued.answers⟩
    · unfold Keyed
      rw [List.map_append, List.nodup_append]
      refine ⟨sound.issued.channelKeys, List.nodup_singleton _, ?_⟩
      intro handle member other fresh same
      rcases List.mem_map.mp member with ⟨channel, accepted, rfl⟩
      exact absent channel accepted (same.trans (List.mem_singleton.mp fresh))
    · intro channel member
      rcases List.mem_append.mp member with old | fresh
      · exact sound.issued.channels channel old
      · rw [List.mem_singleton.mp fresh]
        exact sound.issued.tickets stream.ticket (ticket_mem running)
  · intro channel member
    rcases List.mem_append.mp member with old | fresh
    · exact sound.channels channel old
    · rw [List.mem_singleton.mp fresh]
      exact ⟨Nat.le_refl 0, Connection.Climbs.start _ _, (fun _ member => nomatch member)⟩
  · intro channel member ticket live same
    rcases List.mem_append.mp member with old | fresh
    · exact sound.sameRun channel old ticket live same
    · rw [List.mem_singleton.mp fresh] at same ⊢
      rw [alone ticket live same]
      rfl
  · intro id cursorAt
    have before := sound.covered id cursorAt
    exact ⟨before.1, before.2.mono (List.Subset.refl _) (List.Subset.refl _) forward
      state.page.track.lastEventId⟩

/-- A change of one stream that loses no ground. -/
theorem Sound.changeChannel {handle : Nat} {change : Channel -> Channel} (sound : Sound platform state)
    (fixed : forall channel, (change channel).handle = channel.handle)
    (kept : ∀ channel ∈ state.channels, channel.handle = handle ->
      (change channel).Sound state.store.tables.simulations ∧
        (change channel).connection.runId = channel.connection.runId ∧
          channel.reached ≤ (change channel).reached) :
    Sound platform (state.changeChannel handle change) := by
  have cases_of_mem : ∀ channel ∈ (state.changeChannel handle change).channels,
      channel.Sound state.store.tables.simulations ∧ ∃ old ∈ state.channels,
        old.handle = channel.handle ∧ old.connection.runId = channel.connection.runId := by
    intro channel member
    rcases mem_update_cases member with ⟨old, oldMember, selected, rfl⟩ | ⟨untouched, _⟩
    · have changed := kept old oldMember (of_decide_eq_true selected)
      exact ⟨changed.1, old, oldMember, (fixed old).symm, changed.2.1.symm⟩
    · exact ⟨sound.channels channel untouched, channel, untouched, rfl, rfl⟩
  refine ⟨sound.reachable, ?_, sound.named, sound.exactCursors, ?_, ?_, ?_⟩
  · refine ⟨sound.issued.channelKeys.update fixed, sound.issued.ticketKeys, ?_, sound.issued.tickets,
      sound.issued.refreshes, sound.issued.answers⟩
    intro channel member
    rcases cases_of_mem channel member with ⟨_, old, oldMember, same, _⟩
    rw [← same]
    exact sound.issued.channels old oldMember
  · exact fun channel member => (cases_of_mem channel member).1
  · intro channel member ticket live same
    rcases cases_of_mem channel member with ⟨_, old, oldMember, sameHandle, sameRun⟩
    rw [← sameRun]
    exact sound.sameRun old oldMember ticket live (same.trans sameHandle.symm)
  · intro id cursor
    have before := sound.covered id cursor
    have forward : ∀ ticket ∈ state.page.track.live, reachedBy state.channels ticket ≤
        reachedBy (state.changeChannel handle change).channels ticket :=
      fun ticket _ => reachedBy_update fixed (fun channel member same => (kept channel member same).2.2) ticket
    exact ⟨before.1, before.2.mono (List.Subset.refl _) (List.Subset.refl _) forward
      state.page.track.lastEventId⟩

theorem Channel.Sound.poll {rows : List Queue.SimulationEvent} {simulations : List Queue.Simulation}
    {channel : Channel} {step : StreamStep} {connection : Connection}
    (sound : channel.Sound simulations) (keyed : Keyed Queue.SimulationEvent.eventId rows)
    (testified : ∀ event ∈ rows, Queue.Testified simulations event.runId event.payloadJson)
    (advanced : channel.connection.advance rows step = some connection) :
    Channel.Sound simulations { channel with connection := connection } ∧
      connection.runId = channel.connection.runId ∧
        channel.reached = Channel.reached { channel with connection := connection } := by
  rcases Connection.advance_extends advanced with ⟨sameRun, sameCursor, more, written, events⟩
  refine ⟨⟨?_, sound.climbs.advance keyed advanced, ?_⟩, sameRun, ?_⟩
  · rw [written, List.length_append]
    exact sound.read.trans (Nat.le_add_right _ _)
  · intro event member
    rw [written, sentEvents_append] at member
    rw [sameRun]
    rcases List.mem_append.mp member with old | fresh
    · exact sound.testified event old
    · rcases events event fresh with ⟨inRows, ofRun⟩
      rw [← ofRun]
      exact testified event inRows
  · unfold Channel.reached
    rw [written, sameCursor, List.take_append_of_le_length sound.read]

theorem Sound.poll {channel : Channel} {step : StreamStep} {connection : Connection}
    (sound : Sound platform state) (accepted : channel ∈ state.channels)
    (advanced : channel.connection.advance state.store.tables.simulationEvents step = some connection) :
    Sound platform (state.changeChannel channel.handle fun other =>
      { other with connection := connection }) := by
  refine sound.changeChannel (fun _ => rfl) ?_
  intro other member same
  rw [sound.issued.channelKeys.eq_of_mem member accepted same]
  have polled := (sound.channels channel accepted).poll state.store.unique.eventId
    (Queue.reachable_testifies sound.reachable) advanced
  exact ⟨polled.1, polled.2.1, Int.le_of_eq polled.2.2⟩

/-- The page reads the next frame of a stream. -/
theorem Channel.Sound.read_next {simulations : List Queue.Simulation} {channel : Channel} {frame : Frame}
    (sound : channel.Sound simulations) (next : channel.next? = some frame) :
    Channel.Sound simulations { channel with delivered := channel.delivered + 1 } ∧
      channel.reached ≤ Channel.reached { channel with delivered := channel.delivered + 1 } := by
  have inside := (List.getElem?_eq_some_iff.mp next).1
  refine ⟨⟨inside, sound.climbs, sound.testified⟩, ?_⟩
  unfold Channel.reached
  rw [reach_take_succ next]
  exact Frame.le_reach (sound.climbs.rising.above next)

theorem Sound.read {channel : Channel} {frame : Frame} (sound : Sound platform state)
    (accepted : channel ∈ state.channels) (next : channel.next? = some frame) :
    Sound platform (state.changeChannel channel.handle fun other =>
      { other with delivered := other.delivered + 1 }) := by
  refine sound.changeChannel (fun _ => rfl) ?_
  intro other member same
  rw [sound.issued.channelKeys.eq_of_mem member accepted same]
  have read := (sound.channels channel accepted).read_next next
  exact ⟨read.1, rfl, read.2⟩

/-- The page takes a frame from the subscription with its handle. -/
theorem frameArrives_performed {page result : Page} {handle : Nat} {id : Option Nat} {type : String}
    {data : Json} (performed : page.perform (.frameArrives handle id type data) = some result) :
    ∃ stream ∈ page.subscriptions, stream.handle = handle ∧
      result = page.frameArrives stream id type data := by
  cases perform_cases performed with
  | frameArrives _ _ _ running _ => exact ⟨_, running, rfl, rfl⟩

theorem Sound.frameArrives {stream : Subscription} {channel : Channel} {frame : Frame} {page : Page}
    (sound : Sound platform state) (timely : Timely state (.frameArrives stream.handle))
    (running : stream ∈ state.page.subscriptions) (accepted : channel ∈ state.channels)
    (same : channel.handle = stream.handle) (next : channel.next? = some frame)
    (performed : state.page.perform (.frameArrives stream.handle
      (some (frame.wire platform stream.runId).id) (frame.wire platform stream.runId).type
      (frame.wire platform stream.runId).data) = some page) :
    Sound platform
      { state.changeChannel channel.handle fun other => { other with
          delivered := other.delivered + 1 } with
        page := page, seen := state.handed stream frame } := by
  have read := sound.read accepted next
  have carries := perform_carries (perform_cases performed)
  rcases frameArrives_performed performed with ⟨reader, readerRunning, sameHandle, rfl⟩
  rw [sound.issued.subscription_unique readerRunning running sameHandle] at carries ⊢
  have handed : state.seen ⊆ state.handed stream frame := by
    unfold Delivery.handed
    cases frame with
    | persisted event =>
        simp only
        split
        · exact List.subset_cons_self _ _
        · exact List.Subset.refl _
    | reset latest occurredAt => exact List.Subset.refl _
    | heartbeat latest serverTime => exact List.Subset.refl _
  rcases @Page.frameArrives_track state.page stream (frame.wire platform stream.runId).id
    (frame.wire platform stream.runId).type (frame.wire platform stream.runId).data with
    kept | ⟨selected, identified, moved⟩
  · refine read.keep carries (by rw [kept]; exact List.Sublist.refl _) ?_
    rw [kept]
    intro id cursor
    have before := read.covered id cursor
    exact ⟨before.1, before.2.mono handed (List.Subset.refl _) (fun _ _ => Int.le_refl _)
      state.page.track.lastEventId⟩
  · refine read.keep carries (by rw [moved]; exact List.Sublist.refl _) ?_
    rw [moved]
    intro id cursor
    have inTime := timely stream running rfl selected channel accepted same frame next
    cases frame with
    | reset latest occurredAt => exact absurd rfl identified
    | persisted event =>
        cases cursor
        rw [Frame.wire, number_of_exact inTime]
        refine ⟨inTime, Or.inl ⟨event.eventId, ?_, Nat.le_refl _⟩⟩
        have handedOver : state.handed stream (.persisted event) = event.eventId :: state.seen :=
          if_pos selected
        rw [handedOver]
        exact List.mem_cons_self
    | heartbeat latest serverTime =>
        cases cursor
        rw [Frame.wire, number_of_exact inTime.1]
        refine ⟨inTime.1, ?_⟩
        have forward : ∀ ticket ∈ state.page.track.live, reachedBy state.channels ticket ≤
            reachedBy (state.changeChannel channel.handle fun other => { other with
              delivered := other.delivered + 1 }).channels ticket := by
          intro ticket _
          apply @reachedBy_update _ channel.handle
            (fun other => { other with delivered := other.delivered + 1 }) (fun _ => rfl)
          intro other member sameOther
          rw [sound.issued.channelKeys.eq_of_mem member accepted sameOther]
          exact ((sound.channels channel accepted).read_next next).2
        exact inTime.2.mono handed (List.Subset.refl _) forward _

theorem Sound.answer {refresh : PendingRefresh} {detail : SimulationDetail}
    (sound : Sound platform state) (pending : refresh ∈ state.page.refreshes) :
    Sound platform { state with answers := state.answers ++ [⟨refresh.handle, detail⟩] } := by
  refine ⟨sound.reachable, ?_, sound.named, sound.exactCursors, sound.channels, sound.sameRun,
    sound.covered⟩
  refine ⟨sound.issued.channelKeys, sound.issued.ticketKeys, sound.issued.channels,
    sound.issued.tickets, sound.issued.refreshes, ?_⟩
  intro answer member
  rcases List.mem_append.mp member with old | fresh
  · exact sound.issued.answers answer old
  · rw [List.mem_singleton.mp fresh]
    exact sound.issued.refreshes refresh pending

theorem Sound.step {label : DeliveryLabel} {result : Delivery} (sound : Sound platform state)
    (timely : Timely state label) (delivered : Deliver platform state label result) :
    Sound platform result := by
  cases delivered with
  | database transaction => exact sound.database transaction
  | page permitted performed => exact sound.page timely permitted performed
  | accept running unaccepted _ sent => exact sound.accept running unaccepted sent
  | poll accepted advanced => exact sound.poll accepted advanced
  | answer pending _ _ _ => exact sound.answer pending
  | frameArrives running accepted same next performed =>
      exact sound.frameArrives timely running accepted same next performed

theorem reachable_sound
    (reachable : ((deliverySystem platform).restrictSteps Timely).Reachable state) :
    Sound platform state := by
  refine System.Reachable.invariant (Sound platform) ?_ ?_ reachable
  · rintro start ⟨migrated, page, channels, answers, seen⟩
    have empty : start.page.track = ⟨none, none, []⟩ := by rw [page]; rfl
    refine ⟨System.Reachable.of_initial migrated, ?_, ?_, ?_, ?_, ?_, ?_⟩
    · refine ⟨?_, ?_, ?_, ?_, ?_, ?_⟩
      · rw [channels]
        exact List.nodup_nil
      · rw [empty]
        exact List.nodup_nil
      · rw [channels]
        exact fun _ member => nomatch member
      · rw [empty]
        exact fun _ member => nomatch member
      · rw [page]
        exact fun _ member => nomatch member
      · rw [answers]
        exact fun _ member => nomatch member
    · rw [empty]
      exact fun _ member => nomatch member
    · rw [empty]
      exact fun _ member => nomatch member
    · rw [channels]
      exact fun _ member => nomatch member
    · rw [channels]
      exact fun _ member => nomatch member
    · rw [empty]
      exact fun _ cursor => nomatch cursor
  · rintro source label target _ ⟨delivered, timely⟩ sound
    exact sound.step timely delivered

end

end Frontend
end FederatedIot
