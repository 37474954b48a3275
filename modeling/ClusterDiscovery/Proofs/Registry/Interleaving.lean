/-
Interleaved passes over one registry.

Any number of discovery and overlay passes, of any configurations and namespaces, perform
their effects one at a time and in any order. Each works from what it has listed. The
versions see to it that neither loop undoes what the other one did.
-/

import ClusterDiscovery.Proofs.Registry.Loops
import ClusterDiscovery.Proofs.World.Keeper
import Mathlib.Logic.Relation

namespace ClusterDiscovery

/-- A pass of a loop, as far as it is still to be performed. -/
structure Worker where
  loop : Loop
  rest : Program loop.Value

/-- A registry and the passes that are under way. -/
structure System where
  registry : Registry
  workers : List Worker

/-- A pass that has not performed anything yet. -/
inductive Worker.Begins : Worker → Prop where
  | discovery (settings : Settings) (config : Config) (space : String) :
      Begins ⟨.discovery, ExceptT.run (Pass.run settings config space)⟩
  | overlay : Begins ⟨.overlay, Overlay.pass⟩

namespace System

/-- A pass of a loop performs its next effect. -/
inductive Acts (loop : Loop) (effect : Effect) : System → System → Prop where
  | perform {registry reached : Registry} {before after : List Worker}
      {next : effect.Answer → Program loop.Value} {answer : effect.Answer}
      (answers : registry.Answers effect answer reached) :
      Acts loop effect ⟨registry, before ++ ⟨loop, .perform effect next⟩ :: after⟩
        ⟨reached, before ++ ⟨loop, next answer⟩ :: after⟩

inductive Step : System → System → Prop where
  | begins {system : System} {worker : Worker} (fresh : worker.Begins) :
      Step system { system with workers := worker :: system.workers }
  | acts {loop : Loop} {effect : Effect} {system next : System}
      (performed : Acts loop effect system next) : Step system next

def Works (system next : System) : Prop := ∃ loop effect, Acts loop effect system next

def next? (system : System) (index : Nat) : Option (Loop × Effect) :=
  match system.workers[index]? with
  | some ⟨loop, .perform effect _⟩ => some (loop, effect)
  | _ => none

def turn (handler : Handler Registry) (system : System) (index : Nat) : System :=
  match system.workers[index]? with
  | some ⟨loop, .perform effect next⟩ =>
      let answered := handler effect system.registry
      ⟨answered.2, system.workers.set index ⟨loop, next answered.1⟩⟩
  | _ => system

def turns (handler : Handler Registry) (system : System) (schedule : List Nat) : System :=
  schedule.foldl (turn handler) system

section Turns

variable {handler : Handler Registry} {system : System}
  (faithful : ∀ effect (registry : Registry),
    registry.Answers effect (handler effect registry).1 (handler effect registry).2)

include faithful

theorem acts_turn {index : Nat} {loop : Loop} {effect : Effect}
    (isNext : system.next? index = some (loop, effect)) :
    Acts loop effect system (system.turn handler index) := by
  obtain ⟨registry, workers⟩ := system
  unfold next? at isNext
  unfold turn
  split at isNext
  · rename_i acting performed next found
    cases isNext
    simp only at found ⊢
    obtain ⟨bound, here⟩ := List.getElem?_eq_some_iff.mp found
    have apart : workers = workers.take index ++ ⟨loop, .perform effect next⟩ ::
        workers.drop (index + 1) := by
      rw [← here, List.getElem_cons_drop, List.take_append_drop]
    rw [List.set_eq_take_append_cons_drop, if_pos bound]
    generalize workers.take index = before at apart ⊢
    generalize workers.drop (index + 1) = after at apart ⊢
    subst apart
    exact .perform (faithful effect registry)
  · cases isNext

theorem works_turn (index : Nat) :
    Relation.ReflTransGen Works system (system.turn handler index) := by
  cases isNext : system.next? index with
  | some found => exact .single ⟨_, _, acts_turn faithful isNext⟩
  | none =>
      have idle : system.turn handler index = system := by
        unfold next? at isNext
        unfold turn
        split at isNext
        · cases isNext
        · rfl
      rw [idle]

theorem works_turns (schedule : List Nat) :
    Relation.ReflTransGen Works system (system.turns handler schedule) := by
  induction schedule generalizing system with
  | nil => exact .refl
  | cons index rest ih => exact (works_turn faithful index).trans ih

end Turns

theorem steps_of_works {system next : System} (path : Relation.ReflTransGen Works system next) :
    Relation.ReflTransGen Step system next :=
  Relation.ReflTransGen.mono (fun _ _ ⟨_, _, performed⟩ => .acts performed) _ _ path

/-- Every pass keeps to the discipline of its loop with what it knows, which still holds of
the registry. -/
def Heeds (rules : Loop → Discipline (List Cluster)) (system : System) : Prop :=
  ∀ worker ∈ system.workers, ∃ known, system.registry.Knows known ∧
    worker.rest.Obeys (rules worker.loop) (fun _ _ => True) known

variable {rules : Loop → Discipline (List Cluster)} {loop : Loop} {effect : Effect}
  {system next : System}

theorem Heeds.begins (heeds : Heeds rules system) {worker : Worker}
    (obeys : worker.rest.Obeys (rules worker.loop) (fun _ _ => True) []) :
    Heeds rules { system with workers := worker :: system.workers } := by
  intro other member
  rcases List.mem_cons.mp member with rfl | older
  · refine ⟨[], ?_, obeys⟩
    intro seen nothing
    cases nothing
  · exact heeds other older

theorem Heeds.permitted (heeds : Heeds rules system) (acts : Acts loop effect system next) :
    ∃ known answer, system.registry.Knows known ∧ (rules loop).permits known effect ∧
      system.registry.Answers effect answer next.registry := by
  cases acts with
  | perform answers =>
      obtain ⟨known, knows, obeys⟩ := heeds _ (List.mem_append_right _ List.mem_cons_self)
      exact ⟨known, _, knows, (Program.obeys_perform.mp obeys).1, answers⟩

theorem Heeds.acts (heeds : Heeds rules system)
    (learns : ∀ loop, (rules loop).learns = Registry.snapshot)
    (sound : system.registry.Sound) (acts : Acts loop effect system next) :
    Heeds rules next := by
  cases acts with
  | @perform registry reached before after rest answer answers =>
      -- the passes that wait still know what they knew: a call makes no old version current
      have others (worker : Worker) (member : worker ∈ before ++ after) :
          ∃ known, reached.Knows known ∧
            worker.rest.Obeys (rules worker.loop) (fun _ _ => True) known := by
        have older : worker ∈ before ++ ⟨loop, .perform effect rest⟩ :: after := by
          rcases List.mem_append.mp member with inBefore | inAfter
          · exact List.mem_append_left _ inBefore
          · exact List.mem_append_right _ (List.mem_cons_of_mem _ inAfter)
        obtain ⟨known, knows, obeys⟩ := heeds worker older
        exact ⟨known, answers.knows knows, obeys⟩
      intro worker member
      rcases List.mem_append.mp member with inBefore | isActor
      · exact others worker (List.mem_append_left _ inBefore)
      rcases List.mem_cons.mp isActor with rfl | inAfter
      · obtain ⟨known, knows, obeys⟩ := heeds _ (List.mem_append_right _ List.mem_cons_self)
        have onward := (Program.obeys_perform.mp obeys).2 answer
        rw [learns loop] at onward
        exact ⟨_, answers.knows_snapshot sound knows, onward⟩
      · exact others worker (List.mem_append_right _ inAfter)

theorem Acts.sound (acts : Acts loop effect system next) (sound : system.registry.Sound) :
    next.registry.Sound := by
  cases acts with
  | perform answers => exact answers.sound sound

/-- The registry is sound, and every pass keeps to the discipline of its loop with what it
knows, which still holds of the registry. -/
structure Safe (system : System) : Prop where
  sound : system.registry.Sound
  disciplined : ∀ worker ∈ system.workers, ∃ known, system.registry.Knows known ∧
    worker.rest.Obeys worker.loop.discipline (fun _ _ => True) known

theorem obeys_of_begins {worker : Worker} (fresh : worker.Begins) :
    worker.rest.Obeys worker.loop.discipline (fun _ _ => True) [] := by
  cases fresh with
  | discovery settings config space =>
      exact ((Pass.suits_discipline config space).run_obeys []).program
  | overlay => exact Overlay.pass_obeys []

theorem Acts.disciplined (acts : Acts loop effect system next) (safe : system.Safe) :
    ∃ known answer, system.registry.Knows known ∧ loop.permits known effect ∧
      system.registry.Answers effect answer next.registry := by
  have heeds : Heeds Loop.discipline system := safe.disciplined
  exact heeds.permitted acts

/-- One step keeps the registry sound and every pass disciplined. -/
theorem Step.safe (step : Step system next) (safe : system.Safe) : next.Safe := by
  have heeds : Heeds Loop.discipline system := safe.disciplined
  cases step with
  | begins fresh => exact ⟨safe.sound, heeds.begins (obeys_of_begins fresh)⟩
  | acts performed =>
      exact ⟨performed.sound safe.sound, heeds.acts (fun _ => rfl) safe.sound performed⟩

theorem safe_of_reachable {initial system : System} (sound : initial.registry.Sound)
    (idle : initial.workers = []) (reachable : Relation.ReflTransGen Step initial system) :
    system.Safe := by
  induction reachable with
  | refl =>
      refine ⟨sound, ?_⟩
      intro worker member
      rw [idle] at member
      cases member
  | tail _earlier step ih => exact step.safe ih

/-- One step keeps flag and label of every record in accord. -/
theorem Step.paired (step : Step system next) (safe : system.Safe)
    (paired : ∀ record ∈ system.registry.records, record.Paired) :
    ∀ record ∈ next.registry.records, record.Paired := by
  cases step with
  | begins => exact paired
  | @acts loop effect _ _ performed =>
      obtain ⟨known, answer, knows, permitted, answers⟩ := performed.disciplined safe
      intro record present
      cases loop with
      | discovery =>
          rcases answers.of_discovery knows permitted present with
            ⟨old, wasThere, _sameKey, sameFlag, sameLabels⟩ | ⟨_isNew, unmanaged, unlabelled⟩
          · exact (paired old wasThere).congr sameFlag sameLabels
          · exact Cluster.paired_of_unlabelled unlabelled unmanaged
      | overlay =>
          obtain ⟨old, wasThere, _sameKey, _same, keeps⟩ :=
            (answers.of_overlay permitted).2 record present
          exact keeps (paired old wasThere)

/-- Whatever the order of their effects, the loops do not undo each other's writes. -/
theorem loses_no_update {initial system : System} (sound : initial.registry.Sound)
    (idle : initial.workers = []) (reachable : Relation.ReflTransGen Step initial system) :
    ((∀ record ∈ initial.registry.records, record.Paired) →
      ∀ record ∈ system.registry.records, record.Paired) ∧
    (∀ effect next, Acts .discovery effect system next →
      ∀ old ∈ system.registry.records, ∀ record ∈ next.registry.records,
        record.key = old.key → record.spec.isManaged = old.spec.isManaged ∧
          record.metadata.labels = old.metadata.labels) ∧
    (∀ effect next, Acts .overlay effect system next →
      next.registry.keys = system.registry.keys ∧
      ∀ old ∈ system.registry.records, ∀ record ∈ next.registry.records,
        record.key = old.key → old.SameButManaged record) ∧
    ∀ loop cluster next, Acts loop (.cluster (.createRecord cluster)) system next →
      (∀ old ∈ system.registry.records, old ∈ next.registry.records) ∧
      (cluster.key ∈ system.registry.keys →
        next.registry.records = system.registry.records) := by
  have safe := safe_of_reachable sound idle reachable
  refine ⟨?_, ?_, ?_, ?_⟩
  · intro paired
    induction reachable with
    | refl => exact paired
    | tail earlier step ih =>
        have safeBefore := safe_of_reachable sound idle earlier
        exact step.paired safeBefore (ih safeBefore)
  · intro effect next acts old wasThere record present sameKey
    obtain ⟨known, answer, knows, permitted, answers⟩ := acts.disciplined safe
    rcases answers.of_discovery knows permitted present with
      ⟨other, isOther, otherKey, sameFlag, sameLabels⟩ | ⟨isNew, _unmanaged, _unlabelled⟩
    · have same : old = other :=
        safe.sound.eq_of_key wasThere isOther (sameKey.symm.trans otherKey)
      rw [same]
      exact ⟨sameFlag, sameLabels⟩
    · rw [sameKey] at isNew
      exact absurd (List.mem_map.mpr ⟨old, wasThere, rfl⟩) isNew
  · intro effect next acts
    obtain ⟨known, answer, _knows, permitted, answers⟩ := acts.disciplined safe
    obtain ⟨sameKeys, kept⟩ := answers.of_overlay permitted
    refine ⟨sameKeys, ?_⟩
    intro old wasThere record present sameKey
    obtain ⟨other, isOther, otherKey, same, _paired⟩ := kept record present
    rw [safe.sound.eq_of_key wasThere isOther (sameKey.symm.trans otherKey)]
    exact same
  · intro loop cluster next acts
    obtain ⟨_known, _answer, _knows, _permitted, answers⟩ := acts.disciplined safe
    exact answers.of_create

end System

namespace Registry

def unissued? (registry : Registry) : Option String :=
  let version := toString registry.issued.length
  if version ∈ registry.issued then none else some version

def current? (registry : Registry) (cluster : Cluster) : Option Cluster :=
  registry.records.find? fun record =>
    record.key == cluster.key && record.version? == cluster.version?

variable {registry : Registry}

theorem not_mem_of_unissued? {version : String} (found : registry.unissued? = some version) :
    version ∉ registry.issued := by
  unfold unissued? at found
  simp only [Option.ite_none_left_eq_some, Option.some.injEq] at found
  obtain ⟨fresh, rfl⟩ := found
  exact fresh

theorem mem_of_current? {cluster current : Cluster}
    (found : registry.current? cluster = some current) :
    current ∈ registry.records ∧ current.key = cluster.key ∧
      current.version? = cluster.version? := by
  have same := List.find?_some found
  simp only [Bool.and_eq_true, beq_iff_eq] at same
  exact ⟨List.mem_of_find?_eq_some found, same.1, same.2⟩

end Registry

namespace Sample

/-- A registry over an inventory that has the clusters that are given, and some of them are
managed. It refuses what is written over a record that is no longer current. -/
def registering (ids managedIds : List String) : Handler Registry
  | .cluster (.getSecret _ _), registry => (.ok (some secret), registry)
  | .cluster .listManagedIds, registry => (.ok managedIds, registry)
  | .cluster .listAllRecords, registry => (.ok registry.records, registry)
  | .cluster (.listRecords space), registry =>
      (.ok (registry.records.filter fun record => record.space == space), registry)
  | .cluster (.createRecord cluster), registry =>
      if cluster.key ∈ registry.keys then (.ok (), registry)
      else
        match registry.unissued? with
        | some version =>
            (.ok (), ⟨registry.records ++ [cluster.withVersion (some version)],
              version :: registry.issued⟩)
        | none => (.error (.hub .service), registry)
  | .cluster (.replaceRecord cluster), registry =>
      match registry.current? cluster, registry.unissued? with
      | some _, some version => (.ok (), registry.put cluster version)
      | _, _ => (.error (.writeConflict cluster.name), registry)
  | .cluster (.setManaged cluster managed), registry =>
      match registry.current? cluster, registry.unissued? with
      | some current, some version => (.ok (), registry.put (current.setManaged managed) version)
      | _, _ => (.error (.writeConflict cluster.name), registry)
  | .cluster _, registry => (.error (.hub .service), registry)
  | .send (.form _ _), registry => (granted, registry)
  | .send (.query _ _ _), registry => (page ids, registry)
  | .now, registry => ((world []).clock, registry)
  | .measure _, registry => ((), registry)
  | .nudge, registry => ((), registry)
  | .trigger _ _, registry => (true, registry)

theorem answers_registering (ids managedIds : List String) (effect : Effect)
    (registry : Registry) : registry.Answers effect (registering ids managedIds effect registry).1
      (registering ids managedIds effect registry).2 := by
  cases effect with
  | cluster call =>
      cases call with
      | getSecret space name => exact .unrelated _ rfl
      | listManagedIds => exact .unrelated _ rfl
      | listAllRecords => exact .listedAll (List.Perm.refl _)
      | listRecords space => exact .listed (List.Perm.refl _)
      | createRecord cluster =>
          unfold registering
          simp only
          split
          · rename_i taken
            exact .existed taken
          · rename_i free
            split
            · rename_i version found
              exact .created free (Registry.not_mem_of_unissued? found)
            · exact .failed _
      | replaceRecord cluster =>
          unfold registering
          simp only
          split
          · rename_i current version isCurrent found
            obtain ⟨present, sameKey, sameVersion⟩ := Registry.mem_of_current? isCurrent
            exact .replaced present sameKey sameVersion (Registry.not_mem_of_unissued? found)
          · exact .failed _
      | setManaged cluster managed =>
          unfold registering
          simp only
          split
          · rename_i current version isCurrent found
            obtain ⟨present, sameKey, sameVersion⟩ := Registry.mem_of_current? isCurrent
            exact .marked present sameKey sameVersion (Registry.not_mem_of_unissued? found)
          · exact .failed _
      | _ => exact .failed _
  | send request => cases request <;> exact .unrelated _ rfl
  | _ => exact .unrelated _ rfl

end Sample

namespace System

section Sample

private def marking? : Option (Loop × Effect) → Option Cluster
  | some (.overlay, .cluster (.setManaged cluster true)) => some cluster
  | _ => none

private def replacing? : Option (Loop × Effect) → Option Cluster
  | some (.discovery, .cluster (.replaceRecord cluster)) => some cluster
  | _ => none

private theorem eq_of_marking? {found : Option (Loop × Effect)} {cluster : Cluster}
    (marks : marking? found = some cluster) :
    found = some (.overlay, .cluster (.setManaged cluster true)) := by
  unfold marking? at marks
  split at marks <;> cases marks
  rfl

private theorem eq_of_replacing? {found : Option (Loop × Effect)} {cluster : Cluster}
    (replaces : replacing? found = some cluster) :
    found = some (.discovery, .cluster (.replaceRecord cluster)) := by
  unfold replacing? at replaces
  split at replaces <;> cases replaces
  rfl

private theorem Acts.eq_of_unwritten {loop : Loop} {cluster : Cluster} {system next : System}
    (acts : Acts loop (.cluster (.replaceRecord cluster)) system next)
    (unwritten : next.registry.issued = system.registry.issued) :
    next.registry = system.registry := by
  cases acts with
  | perform answers =>
      cases answers with
      | failed => rfl
      | replaced => exact absurd unwritten (List.cons_ne_self _ _)
      | unrelated answer outside => cases outside

private def contested : Registry := ⟨[(Sample.record "b").withVersion (some "0")], ["0"]⟩

private def discovery : Worker :=
  ⟨.discovery, ExceptT.run (Pass.run .standard Sample.config "ns")⟩

private def handler : Handler Registry := Sample.registering ["b"] ["b"]

private def listed : System :=
  turns handler ⟨contested, [discovery, ⟨.overlay, Overlay.pass⟩]⟩ [1, 1, 0, 0, 0, 0, 0]

private def marked : System := listed.turn handler 1

private def refused : System := marked.turn handler 0

private def relisted : System :=
  turns handler { refused with workers := discovery :: refused.workers } [0, 0, 0, 0, 0]

private def replaced : System := relisted.turn handler 0

/-- A discovery pass and a pass of the overlay have listed the same record. The overlay marks it,
so the replacement that the discovery pass has planned is refused. The next discovery pass
replaces the record, and the mark stays. -/
theorem loses_no_update_sample :
    ∃ listed marked refused relisted replaced seen stale current,
      Relation.ReflTransGen Step ⟨contested, []⟩ listed ∧
      Acts .overlay (.cluster (.setManaged seen true)) listed marked ∧
      Acts .discovery (.cluster (.replaceRecord stale)) marked refused ∧
      stale.version? = seen.version? ∧ refused.registry = marked.registry ∧
      Relation.ReflTransGen Step refused relisted ∧
      Acts .discovery (.cluster (.replaceRecord current)) relisted replaced ∧
      ∃ record ∈ replaced.registry.records,
        record.spec.region = "" ∧ record.spec.isManaged = true ∧ record.Paired := by
  have faithful := Sample.answers_registering ["b"] ["b"]
  have sound : contested.Sound := by
    refine ⟨List.pairwise_singleton _ _, ?_⟩
    intro record member
    rw [List.mem_singleton.mp member]
    exact ⟨"0", List.mem_cons_self, rfl⟩
  have paired : ∀ record ∈ contested.records, record.Paired := by
    intro record member
    rw [List.mem_singleton.mp member]
    exact Cluster.paired_of_unlabelled rfl rfl
  have toListed : Relation.ReflTransGen Step ⟨contested, []⟩ listed :=
    .head (.begins .overlay) (.head (.begins (.discovery .standard Sample.config "ns"))
      (steps_of_works (works_turns faithful _)))
  have seenVersion : (marking? (listed.next? 1)).map Cluster.version? = some (some "0") := by
    decide +kernel
  obtain ⟨seen, marks, sameSeen⟩ := Option.map_eq_some_iff.mp seenVersion
  have marking : Acts .overlay (.cluster (.setManaged seen true)) listed marked :=
    acts_turn faithful (eq_of_marking? marks)
  have staleVersion : (replacing? (marked.next? 0)).map Cluster.version? = some (some "0") := by
    decide +kernel
  obtain ⟨stale, plans, sameStale⟩ := Option.map_eq_some_iff.mp staleVersion
  have refusing : Acts .discovery (.cluster (.replaceRecord stale)) marked refused :=
    acts_turn faithful (eq_of_replacing? plans)
  have toRelisted : Relation.ReflTransGen Step refused relisted :=
    .head (.begins (.discovery .standard Sample.config "ns"))
      (steps_of_works (works_turns faithful _))
  have currentVersion : (replacing? (relisted.next? 0)).map Cluster.version? =
      some (some "1") := by
    decide +kernel
  obtain ⟨current, replaces, _sameCurrent⟩ := Option.map_eq_some_iff.mp currentVersion
  have replacing : Acts .discovery (.cluster (.replaceRecord current)) relisted replaced :=
    acts_turn faithful (eq_of_replacing? replaces)
  have reached : Relation.ReflTransGen Step ⟨contested, []⟩ relisted :=
    ((toListed.tail (.acts marking)).tail (.acts refusing)).trans toRelisted
  refine ⟨listed, marked, refused, relisted, replaced, seen, stale, current, toListed, marking,
    refusing, sameStale.trans sameSeen.symm, ?_, toRelisted, replacing, ?_⟩
  · have unwritten : refused.registry.issued = marked.registry.issued := by decide +kernel
    exact refusing.eq_of_unwritten unwritten
  · have before : (relisted.registry.records.any fun record =>
        record.key == ("ns", "b") && record.spec.isManaged) = true := by decide +kernel
    have after : (replaced.registry.records.any fun record =>
        record.key == ("ns", "b") && record.spec.region == "") = true := by decide +kernel
    obtain ⟨old, wasThere, oldIs⟩ := List.any_eq_true.mp before
    obtain ⟨record, present, recordIs⟩ := List.any_eq_true.mp after
    rw [Bool.and_eq_true, beq_iff_eq] at oldIs recordIs
    obtain ⟨_, discoveries, _⟩ := loses_no_update sound rfl reached
    obtain ⟨sameFlag, _sameLabels⟩ := discoveries _ _ replacing old wasThere record present
      (recordIs.1.trans oldIs.1.symm)
    have stillPaired := (loses_no_update sound rfl (reached.tail (.acts replacing))).1 paired
    exact ⟨record, present, eq_of_beq recordIs.2, sameFlag.trans oldIs.2,
      stillPaired record present⟩

end Sample

end System

end ClusterDiscovery
