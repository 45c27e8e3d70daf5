import Mathlib.Data.List.Induction
import ScriptCatalog.Config.Basic
import ScriptCatalog.Proofs.Keyed

/-! Who is connected to a setting. That follows from everything that was asked of the settings so
far: whoever connects again keeps the place, and whoever disconnects in between gets a new one. The
connections that are kept are compared with that, key by key. -/

namespace ScriptCatalog

/-- How many values a function is called with. -/
def Callback.parameters : Callback → Nat
  | recorder takesValue => if takesValue then 1 else 0
  | capacity _ => 1
  | foreign _ takesValue => if takesValue then 1 else 0

/-- What is asked of settings. A function may have more parameters than can be given to it. -/
inductive SettingsCall where
  | connect (connection : Connection) (parameters : Nat)
      (fits : parameters ≤ 1 → connection.callback.parameters = parameters)
  | disconnect (owner : Owner) (key : String)
  | set (key : String) (value : Datum) (saving : Bool)

/-- What an owner and a key have in common: since which call, and the function to be called. -/
structure Bond where
  since : Nat
  callback : Callback

namespace SettingsCall

variable {key : String} {owner : Owner} {calls : List SettingsCall} {call : SettingsCall}

/-- What is left of a bond after the call with some number. -/
def bondAfter (key : String) (owner : Owner) (number : Nat) (held : Option Bond) :
    SettingsCall → Option Bond
  | connect connection parameters _ =>
      if connection.key = key ∧ connection.owner = owner ∧ parameters ≤ 1 then
        some ⟨(held.map (·.since)).getD number, connection.callback⟩
      else held
  | disconnect other asked => if asked = key ∧ other = owner then none else held
  | set .. => held

/-- The bond of an owner and a key that can be connected to, after some calls. -/
def bond (key : String) (calls : List SettingsCall) (owner : Owner) : Option Bond :=
  calls.zipIdx.foldl (fun held call => call.1.bondAfter key owner call.2 held) none

theorem bond_append_singleton (key : String) (calls : List SettingsCall) (call : SettingsCall)
    (owner : Owner) :
    bond key (calls ++ [call]) owner =
      call.bondAfter key owner calls.length (bond key calls owner) := by
  simp [bond, List.zipIdx_append]

/-- A bond began with one of the calls. -/
theorem since_lt_length {found : Bond} (bonded : bond key calls owner = some found) :
    found.since < calls.length := by
  induction calls using List.reverseRecOn generalizing found with
  | nil => cases bonded
  | append_singleton calls call ih =>
      have held (before : Bond) (same : bond key calls owner = some before) :
          before.since < (calls ++ [call]).length := by
        have := ih same
        rw [List.length_append]
        omega
      rw [bond_append_singleton] at bonded
      cases call with
      | connect connection parameters fits =>
          rw [bondAfter] at bonded
          split at bonded
          · cases bonded
            cases before : bond key calls owner with
            | none => simp
            | some earlier => exact held earlier before
          · exact held found bonded
      | disconnect other asked =>
          rw [bondAfter] at bonded
          split at bonded
          · cases bonded
          · exact held found bonded
      | set asked value saving => exact held found bonded

/-- The bond of one owner began before that of another. -/
def Earlier (key : String) (calls : List SettingsCall) (first later : Owner) : Prop :=
  ∃ before after, bond key calls first = some before ∧ bond key calls later = some after ∧
    before.since < after.since

theorem not_earlier_self (key : String) (calls : List SettingsCall) (owner : Owner) :
    ¬Earlier key calls owner owner := by
  rintro ⟨before, after, found, again, less⟩
  cases found.symm.trans again
  omega

end SettingsCall

open SettingsCall

/-- The owners that are connected to a key, with their functions. -/
def boundTo (key : String) (connections : List Connection) : List (Owner × Callback) :=
  (connections.filter (·.key == key)).map fun connection => (connection.owner, connection.callback)

section

variable {key : String} {calls : List SettingsCall} {connections : List Connection}

theorem boundTo_cons (key : String) (connection : Connection) (connections : List Connection) :
    boundTo key (connection :: connections) =
      if connection.key = key then
        (connection.owner, connection.callback) :: boundTo key connections
      else boundTo key connections := by
  by_cases same : connection.key = key
  · simp [boundTo, same]
  · simp [boundTo, same]

theorem boundTo_putConnection (key : String) (connection : Connection)
    (connections : List Connection) :
    boundTo key (Config.putConnection connection connections) =
      if connection.key = key then
        putField connection.owner connection.callback (boundTo key connections)
      else boundTo key connections := by
  induction connections with
  | nil => exact boundTo_cons key connection []
  | cons other rest ih =>
      rw [Config.putConnection]
      by_cases same : other.key = connection.key ∧ other.owner = connection.owner
      · obtain ⟨sameKey, sameOwner⟩ := same
        rw [if_pos ⟨sameKey, sameOwner⟩, boundTo_cons, boundTo_cons, sameKey]
        split
        · simp [putField, sameOwner]
        · rfl
      · rw [if_neg same, boundTo_cons, boundTo_cons, ih]
        by_cases asked : connection.key = key
        · by_cases own : other.key = key
          · have apart : other.owner ≠ connection.owner := fun sameOwner =>
              same ⟨own.trans asked.symm, sameOwner⟩
            simp [asked, own, putField, apart]
          · simp [asked, own]
        · simp [asked]

/-- What is left when an owner was disconnected from a key. -/
theorem boundTo_disconnected (key asked : String) (owner : Owner)
    (connections : List Connection) :
    boundTo key (connections.filter fun other => !(other.key == asked && other.owner == owner)) =
      (boundTo key connections).filter fun bound =>
        !(decide (asked = key) && bound.1 == owner) := by
  rw [boundTo, boundTo, List.filter_map, List.filter_filter, List.filter_filter]
  refine congrArg (List.map _) (List.filter_congr fun other _ => ?_)
  by_cases own : other.key = key
  · subst own
    by_cases gone : asked = other.key
    · simp [gone]
    · have apart : ¬other.key = asked := fun same => gone same.symm
      simp [gone, apart]
  · rw [beq_false_of_ne own, Bool.false_and, Bool.and_false]

theorem lookup_filter_ne {κ α : Type} [BEq κ] [LawfulBEq κ] (key asked : κ)
    (fields : List (κ × α)) :
    (fields.filter fun field => !(field.1 == key)).lookup asked =
      if asked == key then none else fields.lookup asked := by
  induction fields with
  | nil => simp
  | cons field rest ih =>
      obtain ⟨other, value⟩ := field
      rw [List.filter_cons, List.lookup_cons]
      by_cases same : other = key
      · subst same
        rw [if_neg (by simp), ih]
        cases asked == other <;> rfl
      · rw [if_pos (by simpa using same), List.lookup_cons, ih]
        cases first : asked == other with
        | true =>
            cases eq_of_beq first
            simp [same]
        | false => rfl

/-- The functions that are connected to a key are those of the bonds with it, in the order in which
the bonds began. -/
structure Reflects (calls : List SettingsCall) (key : String) (connections : List Connection) :
    Prop where
  callback : ∀ owner, (boundTo key connections).lookup owner =
    (bond key calls owner).map (·.callback)
  ordered : (keysOf (boundTo key connections)).Pairwise (Earlier key calls)

theorem reflects_nil (key : String) : Reflects [] key [] := ⟨fun _ => rfl, .nil⟩

theorem Reflects.nodup (reflects : Reflects calls key connections) :
    (keysOf (boundTo key connections)).Nodup := by
  refine reflects.ordered.imp ?_
  rintro first later earlier rfl
  exact not_earlier_self key calls first earlier

/-- A call that leaves every bond with a key as it was. -/
theorem Reflects.unchanged (reflects : Reflects calls key connections) {call : SettingsCall}
    {after : List Connection} (same : boundTo key after = boundTo key connections)
    (bonds : ∀ owner, bond key (calls ++ [call]) owner = bond key calls owner) :
    Reflects (calls ++ [call]) key after := by
  constructor
  · intro owner
    rw [same, bonds]
    exact reflects.callback owner
  · rw [same]
    refine reflects.ordered.imp ?_
    rintro first later ⟨before, after, found, again, less⟩
    exact ⟨before, after, (bonds first).trans found, (bonds later).trans again, less⟩

theorem Reflects.set (reflects : Reflects calls key connections) (asked : String) (value : Datum)
    (saving : Bool) : Reflects (calls ++ [.set asked value saving]) key connections :=
  reflects.unchanged rfl fun owner => bond_append_singleton key calls _ owner

/-- A connection that is not made, or not to this key. -/
theorem Reflects.refused_connect (reflects : Reflects calls key connections)
    {connection : Connection} {parameters : Nat}
    {fits : parameters ≤ 1 → connection.callback.parameters = parameters}
    (refused : connection.key ≠ key ∨ 1 < parameters) :
    Reflects (calls ++ [.connect connection parameters fits]) key connections := by
  refine reflects.unchanged rfl fun owner => ?_
  rw [bond_append_singleton, bondAfter, if_neg]
  rintro ⟨own, _, few⟩
  rcases refused with apart | many
  · exact apart own
  · omega

theorem Reflects.refused_disconnect (reflects : Reflects calls key connections) {asked : String}
    (apart : asked ≠ key) (owner : Owner) :
    Reflects (calls ++ [.disconnect owner asked]) key connections := by
  refine reflects.unchanged rfl fun other => ?_
  rw [bond_append_singleton, bondAfter, if_neg fun both => apart both.1]

/-- A connection that is made takes the place of the one of its owner, or the last place. -/
theorem Reflects.connect (reflects : Reflects calls key connections) {connection : Connection}
    {parameters : Nat} {fits : parameters ≤ 1 → connection.callback.parameters = parameters}
    (few : parameters ≤ 1) :
    Reflects (calls ++ [.connect connection parameters fits]) key
      (Config.putConnection connection connections) := by
  by_cases asked : connection.key = key
  swap
  · refine reflects.unchanged (by rw [boundTo_putConnection, if_neg asked]) ?_
    intro owner
    rw [bond_append_singleton, bondAfter, if_neg fun same => asked same.1]
  have own : bond key (calls ++ [.connect connection parameters fits]) connection.owner =
      some ⟨((bond key calls connection.owner).map (·.since)).getD calls.length,
        connection.callback⟩ := by
    rw [bond_append_singleton, bondAfter, if_pos ⟨asked, rfl, few⟩]
  have other {owner : Owner} (apart : owner ≠ connection.owner) :
      bond key (calls ++ [.connect connection parameters fits]) owner = bond key calls owner := by
    rw [bond_append_singleton, bondAfter, if_neg fun same => apart same.2.1.symm]
  -- The beginning of a bond stays, whether its function is replaced or not.
  have began {owner : Owner} {held : Bond} (found : bond key calls owner = some held) :
      ∃ still, bond key (calls ++ [.connect connection parameters fits]) owner = some still ∧
        still.since = held.since := by
    by_cases same : owner = connection.owner
    · subst same
      exact ⟨_, own, by rw [found]; rfl⟩
    · exact ⟨held, (other same).trans found, rfl⟩
  have still {first later : Owner} (earlier : Earlier key calls first later) :
      Earlier key (calls ++ [.connect connection parameters fits]) first later := by
    obtain ⟨before, after, found, again, less⟩ := earlier
    obtain ⟨beforeStill, foundStill, sameBefore⟩ := began found
    obtain ⟨afterStill, againStill, sameAfter⟩ := began again
    exact ⟨beforeStill, afterStill, foundStill, againStill, by omega⟩
  constructor
  · intro owner
    rw [boundTo_putConnection, if_pos asked, lookup_putField]
    by_cases same : owner = connection.owner
    · subst same
      rw [own]
      simp
    · rw [other same, reflects.callback owner]
      simp [same]
  · rw [boundTo_putConnection, if_pos asked]
    by_cases there : connection.owner ∈ keysOf (boundTo key connections)
    · rw [keysOf_putField_of_mem _ there]
      exact reflects.ordered.imp still
    · rw [keysOf_putField_of_not_mem _ there, List.pairwise_append]
      refine ⟨reflects.ordered.imp still, List.pairwise_singleton _ _, ?_⟩
      intro first member last lastMember
      cases List.mem_singleton.mp lastMember
      have new : bond key calls connection.owner = none := by
        have missing := (lookup_eq_none_iff_not_mem_keysOf _ _).mpr there
        rw [reflects.callback, Option.map_eq_none_iff] at missing
        exact missing
      rw [new] at own
      obtain ⟨held, found⟩ : ∃ held, bond key calls first = some held := by
        have known := (lookup_isSome_iff_mem_keysOf _ _).mpr member
        rw [reflects.callback, Option.isSome_map] at known
        exact Option.isSome_iff_exists.mp known
      obtain ⟨foundStill, same, since⟩ := began found
      refine ⟨foundStill, _, same, own, ?_⟩
      have less := since_lt_length found
      rw [since]
      exact less

/-- An owner that is disconnected has no place any more. -/
theorem Reflects.disconnect (reflects : Reflects calls key connections) (owner : Owner)
    (asked : String) :
    Reflects (calls ++ [.disconnect owner asked]) key
      (connections.filter fun other => !(other.key == asked && other.owner == owner)) := by
  by_cases same : asked = key
  swap
  · refine reflects.unchanged (by rw [boundTo_disconnected]; simp [same]) ?_
    intro other
    rw [bond_append_singleton, bondAfter, if_neg fun both => same both.1]
  have left : boundTo key
      (connections.filter fun other => !(other.key == asked && other.owner == owner)) =
        (boundTo key connections).filter fun bound => !(bound.1 == owner) := by
    rw [boundTo_disconnected]
    simp [same]
  have gone : bond key (calls ++ [.disconnect owner asked]) owner = none := by
    rw [bond_append_singleton, bondAfter, if_pos ⟨same, rfl⟩]
  have stays {other : Owner} (apart : other ≠ owner) :
      bond key (calls ++ [.disconnect owner asked]) other = bond key calls other := by
    rw [bond_append_singleton, bondAfter, if_neg fun both => apart both.2.symm]
  constructor
  · intro other
    rw [left, lookup_filter_ne]
    by_cases own : other = owner
    · subst own
      rw [gone]
      simp
    · rw [stays own, reflects.callback other]
      simp [own]
  · rw [left]
    have kept : (keysOf ((boundTo key connections).filter fun bound => !(bound.1 == owner))) =
        (keysOf (boundTo key connections)).filter fun other => !(other == owner) := by
      simp [keysOf, List.filter_map, Function.comp_def]
    rw [kept]
    refine List.Pairwise.imp_of_mem ?_ (reflects.ordered.sublist List.filter_sublist)
    rintro first later firstMember laterMember ⟨before, after, found, again, less⟩
    have apart {other : Owner}
        (member : other ∈ (keysOf (boundTo key connections)).filter fun other =>
          !(other == owner)) : other ≠ owner := by
      simpa using (List.mem_filter.mp member).2
    exact ⟨before, after, (stays (apart firstMember)).trans found,
      (stays (apart laterMember)).trans again, less⟩

/-- The connections to a key as its bonds have them, each with the function of its bond. -/
structure Lists (calls : List SettingsCall) (key : String) (connected : List Connection) :
    Prop where
  mem_iff : ∀ connection, connection ∈ connected ↔ connection.key = key ∧
    ∃ since, bond key calls connection.owner = some ⟨since, connection.callback⟩
  ordered : connected.Pairwise fun first later => Earlier key calls first.owner later.owner

theorem Reflects.lists {config : Config} (reflects : Reflects calls key config.connections) :
    Lists calls key (config.connected key) := by
  constructor
  · intro connection
    have bound : connection ∈ config.connected key ↔ connection.key = key ∧
        (connection.owner, connection.callback) ∈ boundTo key config.connections := by
      rw [boundTo, List.mem_map]
      constructor
      · intro member
        exact ⟨eq_of_beq (List.mem_filter.mp member).2, connection, member, rfl⟩
      · rintro ⟨own, other, member, same⟩
        have otherKey : other.key = key := eq_of_beq (List.mem_filter.mp member).2
        obtain ⟨otherOwner, otherCallback⟩ := Prod.mk.inj same
        have whole : other = connection := by
          obtain ⟨_, _, _⟩ := other
          obtain ⟨_, _, _⟩ := connection
          cases otherKey.trans own.symm
          cases otherOwner
          cases otherCallback
          rfl
        rw [← whole]
        exact member
    rw [bound]
    refine and_congr_right fun own => ?_
    constructor
    · intro member
      have found := lookup_of_mem reflects.nodup member
      rw [reflects.callback, Option.map_eq_some_iff] at found
      obtain ⟨⟨since, callback⟩, found, rfl⟩ := found
      exact ⟨since, found⟩
    · rintro ⟨since, found⟩
      have there := reflects.callback connection.owner
      rw [found, Option.map_some] at there
      obtain ⟨before, after, same, _⟩ := List.lookup_eq_some_iff.mp there
      rw [same]
      simp
  · have ordered := reflects.ordered
    rw [keysOf, boundTo, List.map_map, List.pairwise_map] at ordered
    exact ordered

end

end ScriptCatalog
