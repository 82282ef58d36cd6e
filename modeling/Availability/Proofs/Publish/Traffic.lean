import Availability.Proofs.Audit.Pledge
import Availability.Proofs.Publish.Stored
import Availability.Proofs.Storage.Call

namespace Availability

open Audit (Log)
open Program (Path)

structure Booked (published : Table Record) (announced : List Publication) : Prop where
  recorded : ∀ publication ∈ announced, ∃ status,
    published.get? publication.metadataUri = some (publication.record status)
  announced : ∀ uri record, published.get? uri = some record → ∃ publication ∈ announced, publication.metadataUri = uri

theorem Booked.put {published : Table Record} {announced : List Publication} (booked : Booked published announced)
    {publication : Publication} (fresh : ∀ earlier ∈ announced, earlier.metadataUri ≠ publication.metadataUri)
    (status : Status) : Booked (published.put publication.metadataUri (publication.record status))
      (announced ++ [publication]) where
  recorded other member := by
    rcases List.mem_append.mp member with earlier | last
    · rw [Table.get?_put_ne _ _ (fresh other earlier)]
      exact booked.recorded other earlier
    · rw [List.mem_singleton.mp last]
      exact ⟨status, Table.get?_put_self _ _ _⟩
  announced uri record found := by
    by_cases here : uri = publication.metadataUri
    · exact ⟨publication, by simp, here.symm⟩
    · rw [Table.get?_put_ne _ _ here] at found
      obtain ⟨other, earlier, named⟩ := booked.announced uri record found
      exact ⟨other, List.mem_append_left _ earlier, named⟩

theorem Busy.Performs.published {busy after : Busy} {heard : Transcript} (performs : Busy.Performs busy heard after) :
    (heard.announced = [] ∧ after.world.ledger.published = busy.world.ledger.published) ∨
      ∃ publication status, heard.announced = [publication] ∧
        after.world.ledger.published =
          busy.world.ledger.published.put publication.metadataUri (publication.record status) := by
  cases performs with
  | nothing => exact .inl ⟨rfl, rfl⟩
  | @completes _ protocol _ object answer _ completed =>
    cases completed
    exact .inl ⟨rfl, congrArg Chain.Ledger.published (busy.world.ledger_setMemory protocol _)⟩
  | other _ performed => exact World.published_performed performed

theorem Audit.Log.entry_unique {log : Log} {α : Type} {view : Event → Option α}
    (distinct : (log.events.filterMap view).Nodup) {first second : Option Nat × Event} (one : first ∈ log)
    (other : second ∈ log) {value : α} (seen : view first.2 = some value) (again : view second.2 = some value) :
    first = second := by
  unfold Log.events at distinct
  rw [List.filterMap_map, List.Nodup, List.pairwise_filterMap] at distinct
  simp only [Function.comp_apply] at distinct
  by_contra apart
  have symmetric : Std.Symm fun entry after : Option Nat × Event =>
      ∀ found, view entry.2 = some found → ∀ later, view after.2 = some later → found ≠ later :=
    ⟨fun entry after differ found here later there same => differ later there found here same.symm⟩
  exact distinct.forall one other apart value seen value again rfl

theorem Audit.Log.announced_append {log : Log} {index : Nat} {publication : Publication}
    (announced : publication ∈ (log.heard index).announced) (heard : Transcript) (party : Option Nat) :
    publication ∈ (Log.heard (log ++ heard.map (party, ·)) index).announced := by
  unfold Log.heard
  rw [List.filterMap_append, Transcript.announced_append]
  exact List.mem_append_left _ announced

namespace Publish

variable {publisher : Publisher} {blob : Bytes} {dataShardCount parityShardCount : UInt64} {tag : String}
  {heard : Transcript} {last : Program (Except Error Published)}

theorem Course.announces (course : Course publisher blob dataShardCount parityShardCount tag heard last)
    {publication : Publication} (announced : publication ∈ heard.announced) :
    ∃ protocol encoded shardUris before answer,
      Prepared blob dataShardCount parityShardCount tag protocol encoded shardUris publication.metadataUri before ∧
        heard = before ++ [⟨.chain (.broadcast (.publishData publication)), answer⟩] := by
  cases course with
  | quiet silent _ =>
    unfold Transcript.announced at announced
    rw [silent] at announced
    cases announced
  | @announced protocol encoded shardUris before published prepared =>
    have nothing : Transcript.announced before = [] := by
      unfold Transcript.announced
      rw [Transcript.accepted_eq_nil prepared.silent]
      rfl
    rw [Transcript.announced_append, nothing, List.nil_append] at announced
    obtain rfl := List.mem_singleton.mp announced
    exact ⟨_, _, _, _, _, prepared, rfl⟩

structure Request where
  publisher : Publisher
  blob : Bytes
  dataShardCount : UInt64
  parityShardCount : UInt64
  tag : String

def Request.program (request : Request) : Program (Except Error Published) :=
  (publish request.publisher request.blob request.dataShardCount request.parityShardCount request.tag).run

structure Party where
  request : Request
  rest : Program (Except Error Published)

structure Traffic where
  busy : Busy
  parties : List Party := []
  log : Log := []

/-- What may happen to a world apart from operations: calls start or cease to fail, answers take longer or shorter,
blocks come. -/
structure Sways (before after : World) : Prop where
  still : World.Undisturbed before after
  published : after.ledger.published = before.ledger.published

namespace Traffic

/-- A publish starts or goes on by one step, a store call takes its number, somebody else does something that is no
publish, or the world changes by itself. -/
inductive Step : Traffic → Traffic → Prop where
  | opens (traffic : Traffic) (request : Request) :
      Step traffic { traffic with parties := traffic.parties ++ [⟨request, request.program⟩] }
  | calls (traffic : Traffic) (protocol : Protocol) : Step traffic { traffic with busy := traffic.busy.call protocol }
  | acts {traffic : Traffic} {index : Nat} {party : Party} {heard : Transcript}
      {rest : Program (Except Error Published)} {after : Busy} (here : traffic.parties[index]? = some party)
      (taken : Program.Step party.rest heard rest) (performs : Busy.Performs traffic.busy heard after) :
      Step traffic ⟨after, traffic.parties.set index ⟨party.request, rest⟩, traffic.log ++ heard.map (some index, ·)⟩
  | others {traffic : Traffic} {heard : Transcript} {after : Busy} (performs : Busy.Performs traffic.busy heard after)
      (unrelated : heard.announced = []) :
      Step traffic ⟨after, traffic.parties, traffic.log ++ heard.map (none, ·)⟩
  | sways {traffic : Traffic} {world : World} (sways : Sways traffic.busy.world world) :
      Step traffic { traffic with busy := { traffic.busy with world } }

abbrev Run : Traffic → Traffic → Prop := Relation.ReflTransGen Step

variable {start traffic next later : Traffic}

theorem Step.moves (step : Step traffic next) :
    next.log = traffic.log ∨ ∃ party event, next.log = traffic.log ++ [(party, event)] ∧
      Busy.Performs traffic.busy [event] next.busy := by
  cases step with
  | opens | calls | sways => exact .inl rfl
  | others performs | acts _ _ performs =>
    cases performs with
    | nothing => exact .inl (List.append_nil _)
    | completes begun completed => exact .inr ⟨_, _, rfl, .completes begun completed⟩
    | other other performed => exact .inr ⟨_, _, rfl, .other other performed⟩

theorem Run.grown (run : Run traffic later) : traffic.log <+: later.log := by
  induction run with
  | refl => exact List.prefix_rfl
  | tail _ step ih =>
    rcases step.moves with same | ⟨party, event, grown, -⟩
    · rwa [same]
    · rw [grown]
      exact ih.trans (List.prefix_append _ _)

theorem Run.performed (run : Run traffic later) {more : Log} (grown : later.log = traffic.log ++ more)
    {party : Option Nat} {event : Event} (member : (party, event) ∈ more) :
    ∃ between after, Run traffic between ∧ Busy.Performs between.busy [event] after := by
  -- The last step has put the last entry down, or the entry was there before it.
  induction run generalizing more with
  | refl =>
    rw [List.self_eq_append_right] at grown
    rw [grown] at member
    cases member
  | @tail between next run step ih =>
    rcases step.moves with same | ⟨actor, last, appended, performs⟩
    · exact ih (same.symm.trans grown) member
    · obtain ⟨earlier, known⟩ := Run.grown run
      rw [appended, ← known, List.append_assoc, List.append_cancel_left_eq] at grown
      rw [← grown, List.mem_append] at member
      rcases member with before | here
      · exact ih known.symm before
      · cases List.mem_singleton.mp here
        exact ⟨between, next.busy, run, performs⟩

theorem run_of_step {index : Nat} {party : Party} {heard : Transcript} {rest : Program (Except Error Published)}
    {after : World} (here : traffic.parties[index]? = some party) (taken : Program.Step party.rest heard rest)
    (plays : Plays (World.environment World.inOrder) heard traffic.busy.world after) :
    Run traffic ⟨{ traffic.busy with world := after }, traffic.parties.set index ⟨party.request, rest⟩,
      traffic.log ++ heard.map (some index, ·)⟩ := by
  rcases taken.label with rfl | ⟨event, rfl⟩
  · cases plays
    exact .single (.acts here taken (.nothing _))
  · cases plays with
    | step performed others =>
      cases others
      rcases Busy.performs_of_perform performed with performs | ⟨protocol, performs⟩
      · exact .single (.acts here taken performs)
      · have called : Step traffic { traffic with busy := traffic.busy.call protocol } := .calls traffic protocol
        exact .head called (.single (.acts here taken performs))

theorem run_of_path (traffic : Traffic) (index : Nat) {request : Request}
    {program last : Program (Except Error Published)} {heard : Transcript} {after : World}
    (here : traffic.parties[index]? = some ⟨request, program⟩) (path : Path program heard last)
    (plays : Plays (World.environment World.inOrder) heard traffic.busy.world after) :
    Run traffic ⟨{ traffic.busy with world := after }, traffic.parties.set index ⟨request, last⟩,
      traffic.log ++ heard.map (some index, ·)⟩ := by
  obtain ⟨inside, found⟩ := List.getElem?_eq_some_iff.mp here
  let place (program : Program (Except Error Published)) (world : World) (log : Log) : Traffic :=
    ⟨{ traffic.busy with world }, traffic.parties.set index ⟨request, program⟩, log⟩
  have moves {program next : Program (Except Error Published)} {heard : Transcript} {world after : World} {log : Log}
      (taken : Program.Step program heard next) (plays : Plays (World.environment World.inOrder) heard world after) :
      Run (place program world log) (place next after (log ++ heard.map (some index, ·))) := by
    have here : (place program world log).parties[index]? = some ⟨request, program⟩ := List.getElem?_set_self inside
    have moved := run_of_step here taken plays
    simp only [place, List.set_set] at moved ⊢
    exact moved
  have run := Log.run_of_path place moves path plays traffic.log
  have start : place program traffic.busy.world traffic.log = traffic := by
    simp only [place, ← found, List.set_getElem_self]
  rwa [start] at run

/-- What holds all along: every publish is where it is by what it has heard, the networks and the chain hold what was
stored and announced, and only publishes announce. -/
structure Orderly (traffic : Traffic) : Prop where
  follows : traffic.log.Follows (fun party => party.request.program) Party.rest traffic.parties
  shelved : Shelved traffic.busy traffic.log.events
  booked : Booked traffic.busy.world.ledger.published traffic.log.events.announced
  owned : ∀ publication ∈ traffic.log.events.announced, ∃ index, publication ∈ (traffic.log.heard index).announced

/-- A publication is about metadata that nobody else has stored, so the chain has heard of none at its uri. -/
theorem Orderly.fresh (orderly : Orderly traffic) {index : Nat} {party : Party} {heard : Transcript}
    {rest : Program (Except Error Published)} (here : traffic.parties[index]? = some party)
    (taken : Program.Step party.rest heard rest) {publication : Publication}
    (announces : publication ∈ heard.announced) :
    ∀ earlier ∈ traffic.log.events.announced, earlier.metadataUri ≠ publication.metadataUri := by
  obtain ⟨event, rfl⟩ : ∃ event, heard = [event] := by
    refine taken.label.resolve_left ?_
    rintro rfl
    cases announces
  have path := (orderly.follows.paths index party here).snoc taken
  obtain ⟨_, _, _, before, answer, prepared, whole⟩ := (course_of_path path).announces
    (show publication ∈ Transcript.announced (traffic.log.heard index ++ [event]) by simp [announces])
  obtain ⟨rfl, -⟩ := List.append_inj' whole rfl
  obtain ⟨bytes, described, -⟩ := prepared.described
  intro earlier member same
  obtain ⟨other, announced⟩ := orderly.owned earlier member
  cases found : traffic.parties[other]? with
  | none =>
    rw [orderly.follows.unopened other found] at announced
    cases announced
  | some owner =>
    obtain ⟨_, _, _, first, _, earlierPrepared, split⟩ :=
      (course_of_path (orderly.follows.paths other owner found)).announces announced
    obtain ⟨kept, placed, -⟩ := earlierPrepared.described
    have known : _ ∈ traffic.log.heard other := split ▸ List.mem_append_left _ placed
    -- Both have stored their metadata under one uri, so they are one publish, which has not announced anything.
    have entry := Log.entry_unique orderly.shelved.distinct ((Log.mem_heard _ _).mp known)
      ((Log.mem_heard _ _).mp described) rfl (congrArg some same.symm)
    obtain rfl : other = index := Option.some.inj (congrArg Prod.fst entry)
    rw [Transcript.announced, Transcript.accepted_eq_nil prepared.silent] at announced
    cases announced

theorem Orderly.booking (orderly : Orderly traffic) (step : Step traffic next) :
    (next.log.events.announced = traffic.log.events.announced ∧
        next.busy.world.ledger.published = traffic.busy.world.ledger.published) ∨
      ∃ publication status, next.log.events.announced = traffic.log.events.announced ++ [publication] ∧
        next.busy.world.ledger.published =
          traffic.busy.world.ledger.published.put publication.metadataUri (publication.record status) ∧
        ∀ earlier ∈ traffic.log.events.announced, earlier.metadataUri ≠ publication.metadataUri := by
  cases step with
  | opens => exact .inl ⟨rfl, rfl⟩
  | calls protocol =>
    exact .inl ⟨rfl, congrArg Chain.Ledger.published (traffic.busy.world.ledger_setMemory protocol _)⟩
  | sways sways => exact .inl ⟨rfl, sways.published⟩
  | @others heard after performs unrelated =>
    rw [Log.events_append, Transcript.announced_append, unrelated]
    rcases performs.published with ⟨-, kept⟩ | ⟨publication, status, announced, -⟩
    · exact .inl ⟨List.append_nil _, kept⟩
    · cases announced.symm.trans unrelated
  | @acts index party heard rest after here taken performs =>
    rw [Log.events_append, Transcript.announced_append]
    rcases performs.published with ⟨silent, kept⟩ | ⟨publication, status, announced, put⟩
    · exact .inl ⟨by rw [silent, List.append_nil], kept⟩
    · rw [announced]
      exact .inr ⟨publication, status, rfl, put, orderly.fresh here taken (by simp [announced])⟩

theorem Orderly.step (orderly : Orderly traffic) (step : Step traffic next) : Orderly next where
  follows := by
    cases step with
    | opens request => exact orderly.follows.opens rfl
    | calls | sways => exact orderly.follows
    | @others heard after performs unrelated => exact orderly.follows.others heard
    | acts here taken performs => exact orderly.follows.acts here taken rfl
  shelved := by
    cases step with
    | opens => exact orderly.shelved
    | calls protocol => exact orderly.shelved.call protocol
    | sways sways => exact orderly.shelved.undisturbed sways.still
    | others performs | acts _ _ performs =>
      rw [Log.events_append]
      exact orderly.shelved.performs performs
  booked := by
    rcases orderly.booking step with ⟨announced, same⟩ | ⟨publication, status, announced, put, fresh⟩
    · rw [announced, same]
      exact orderly.booked
    · rw [announced, put]
      exact orderly.booked.put fresh status
  owned := by
    intro publication member
    cases step with
    | opens | calls | sways => exact orderly.owned publication member
    | @others heard after performs unrelated =>
      rw [Log.events_append, Transcript.announced_append, unrelated, List.append_nil] at member
      obtain ⟨index, announced⟩ := orderly.owned publication member
      exact ⟨index, Log.announced_append announced heard none⟩
    | @acts index party heard rest after here taken performs =>
      rw [Log.events_append, Transcript.announced_append, List.mem_append] at member
      rcases member with earlier | new
      · obtain ⟨other, announced⟩ := orderly.owned publication earlier
        exact ⟨other, Log.announced_append announced heard index⟩
      · refine ⟨index, ?_⟩
        rw [Log.heard_append_self, Transcript.announced_append]
        exact List.mem_append_right _ new

theorem orderly_of_empty {world : World} (empty : world.Empty) : Orderly { busy := { world } } where
  follows := Log.follows_nil
  shelved := empty.shelved
  booked := by
    refine ⟨List.forall_mem_nil _, fun uri record found => ?_⟩
    change world.ledger.published.get? uri = some record at found
    rw [empty.published] at found
    cases found
  owned := List.forall_mem_nil _

theorem Run.orderly (run : Run start traffic) (orderly : Orderly start) : Orderly traffic := by
  induction run with
  | refl => exact orderly
  | tail _ step ih => exact ih.step step

theorem Run.holds (run : Run traffic later) (orderly : Orderly traffic) {protocol : Protocol} {object : Bytes}
    {uri : String} (stored : ⟨.store protocol object, .ok uri⟩ ∈ traffic.log.events) :
    (later.busy.world.memory protocol).Holds uri object :=
  (run.orderly orderly).shelved.holds ((run.grown.map _).subset stored)

theorem Run.published (run : Run traffic later) (orderly : Orderly traffic) {uri : String} {record : Record}
    (found : traffic.busy.world.ledger.published.get? uri = some record) :
    later.busy.world.ledger.published.get? uri = some record := by
  induction run with
  | refl => exact found
  | @tail between next run step ih =>
    have still := Run.orderly run orderly
    rcases still.booking step with ⟨-, same⟩ | ⟨publication, status, -, put, fresh⟩
    · rwa [same]
    · obtain ⟨earlier, announced, named⟩ := still.booked.announced uri record ih
      rw [put, Table.get?_put_ne _ _ (named ▸ fresh earlier announced)]
      exact ih

end Traffic

end Publish

end Availability
