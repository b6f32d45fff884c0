import Mathlib.Data.List.Induction
import Mathlib.Tactic.Lemma
import QueryExpr.Registry.Alias

/-!
# Claimed aliases

What a claim changes. A dropped alias leads nowhere, and a claim keeps it so; the aliases that are
not claimed stay as they are. Over many claims, an alias leads to the last type that claimed it if
all that claimed it are the same (`Aliases.get?_ofClaims`), as a table has the last value that was
given to a name.
-/

namespace QueryExpr

namespace Aliases

variable {α : Type} {aliases : Aliases α} {same : α → α → Bool} {name other : String} {target : α}

/-- An alias that was claimed twice leads nowhere. -/
def Dropped (aliases : Aliases α) : Prop :=
  ∀ name ∈ aliases.ambiguous, aliases.get? name = none

/-- Without aliases none was claimed twice. -/
lemma dropped_empty : (empty : Aliases α).Dropped :=
  List.forall_mem_nil _

/-- A claim leaves the other aliases as they are. -/
lemma get?_claim_of_ne (h : other ≠ name) :
    (aliases.claim same name target).get? other = aliases.get? other := by
  unfold claim
  split
  · rfl
  · split
    · split
      · exact (Table.get?_insert ..).trans (if_neg h)
      · exact (Table.get?_erase ..).trans (if_neg h)
    · exact (Table.get?_insert ..).trans (if_neg h)

/-- A claimed alias leads to who claims it, if it leads anywhere. -/
lemma get?_claim_self (dropped : aliases.Dropped) {found}
    (h : (aliases.claim same name target).get? name = some found) : found = target := by
  unfold claim at h
  split at h
  · next ambiguous =>
    have none := dropped name (List.contains_iff_mem.1 ambiguous)
    cases h.symm.trans none
  · split at h
    · split at h
      · rw [get?, Table.get?_insert, if_pos rfl] at h
        exact (Option.some.inj h).symm
      · rw [get?, Table.get?_erase, if_pos rfl] at h
        cases h
    · rw [get?, Table.get?_insert, if_pos rfl] at h
      exact (Option.some.inj h).symm

/-- After a claim, an alias that was claimed twice still leads nowhere. -/
lemma Dropped.claim (dropped : aliases.Dropped) (same : α → α → Bool) (name : String)
    (target : α) : (aliases.claim same name target).Dropped := by
  have fresh (h : ¬ aliases.ambiguous.contains name) {other} (member : other ∈ aliases.ambiguous) :
      other ≠ name := fun eq => h (List.contains_iff_mem.2 (eq ▸ member))
  unfold Aliases.claim
  split
  · exact dropped
  · next unambiguous =>
    split
    · split
      · intro other member
        refine (Table.get?_insert ..).trans ?_
        rw [if_neg (fresh unambiguous member)]
        exact dropped other member
      · intro other member
        refine (Table.get?_erase ..).trans ?_
        split
        · rfl
        · next differs =>
          cases member with
          | head => exact absurd rfl differs
          | tail _ member => exact dropped other member
    · intro other member
      refine (Table.get?_insert ..).trans ?_
      rw [if_neg (fresh unambiguous member)]
      exact dropped other member

end Aliases

variable {α : Type}

/-- The values that some entries give to a name, in order. -/
def valuesOf (name : String) (entries : List (String × α)) : List α :=
  entries.filterMap fun entry => if entry.1 = name then some entry.2 else none

/-- One more entry adds its value to those of its own name. -/
lemma valuesOf_concat (name : String) (entries : List (String × α)) (key : String) (value : α) :
    valuesOf name (entries ++ [(key, value)]) =
      if key = name then valuesOf name entries ++ [value] else valuesOf name entries := by
  rw [valuesOf, List.filterMap_append]
  split
  · next h => simp [h, valuesOf]
  · next h => simp [h, valuesOf]

/-- Where every value is given to a key of its own, a name has the values with that key. -/
lemma valuesOf_keyed (key : α → String) (values : List α) (name : String) :
    valuesOf name (values.map fun value => (key value, value)) =
      values.filter fun value => key value = name := by
  rw [valuesOf, List.filterMap_map, ← List.filterMap_eq_filter]
  congr 1
  funext value
  simp [Option.guard]

/-- The last of some values that satisfy a condition. -/
def IsLast (holds : α → Prop) (values : List α) (value : α) : Prop :=
  holds value ∧ ∃ earlier later, values = earlier ++ value :: later ∧ ∀ other ∈ later, ¬ holds other

/-- The last of some values is one of them. -/
lemma IsLast.mem {holds : α → Prop} {values : List α} {value : α}
    (last : IsLast holds values value) : value ∈ values := by
  obtain ⟨-, earlier, later, rfl, -⟩ := last
  exact List.mem_append_right _ (.head _)

/-- What a filter leaves at the end is the last value that satisfies it. -/
lemma getLast?_filter_iff {holds : α → Bool} {values : List α} {value : α} :
    (values.filter holds).getLast? = some value ↔ IsLast (holds ·) values value := by
  rw [List.getLast?_filter, List.find?_eq_some_iff_append]
  refine and_congr_right fun _ => ?_
  constructor
  · rintro ⟨later, earlier, turned, none⟩
    refine ⟨earlier.reverse, later.reverse, ?_, fun other member => ?_⟩
    · simpa using congrArg List.reverse turned
    · simpa using none other (List.mem_reverse.1 member)
  · rintro ⟨earlier, later, rfl, none⟩
    refine ⟨later.reverse, earlier.reverse, by simp, fun other member => ?_⟩
    simpa using none other (List.mem_reverse.1 member)

/-- Among some values of which one satisfies a condition there is a last one that does. -/
lemma exists_isLast {holds : α → Prop} [DecidablePred holds] {values : List α}
    (h : ∃ value ∈ values, holds value) : ∃ last, IsLast holds values last := by
  obtain ⟨value, member, here⟩ := h
  have kept : value ∈ values.filter fun other => holds other :=
    List.mem_filter.2 ⟨member, decide_eq_true here⟩
  have last := getLast?_filter_iff.1 (List.getLast?_eq_some_getLast (List.ne_nil_of_mem kept))
  simp only [decide_eq_true_iff] at last
  exact ⟨_, last⟩

/-- A table has the last value that is given to a name. -/
lemma Table.get?_ofList (entries : List (String × α)) (name : String) :
    (Table.ofList entries).get? name = (valuesOf name entries).getLast? := by
  induction entries using List.reverseRecOn with
  | nil => rfl
  | append_singleton earlier entry ih =>
    obtain ⟨key, value⟩ := entry
    rw [Table.ofList, List.foldl_append]
    show ((Table.ofList earlier).insert key value).get? name = _
    rw [Table.get?_insert, valuesOf_concat, ih]
    by_cases same : name = key
    · rw [if_pos same, if_pos same.symm, List.getLast?_concat]
    · rw [if_neg same, if_neg (Ne.symm same)]

namespace Aliases

variable {aliases : Aliases α} {same : α → α → Bool} {name : String} {target : α}

/-- What a claim does to the alias that is claimed. -/
inductive Claimed (aliases : Aliases α) (same : α → α → Bool) (name : String) (target : α) :
    Aliases α → Prop where
  /-- A dropped alias stays dropped. -/
  | dropped : name ∈ aliases.ambiguous → Claimed aliases same name target aliases
  /-- An alias that leads to another type is dropped. -/
  | conflict {after : Aliases α} {holder} : name ∉ aliases.ambiguous →
    aliases.get? name = some holder → ¬ same holder target →
    after.ambiguous = name :: aliases.ambiguous → Claimed aliases same name target after
  /-- An alias leads to the type that claims it if it led to no other one. -/
  | held {after : Aliases α} : name ∉ aliases.ambiguous →
    (∀ holder, aliases.get? name = some holder → same holder target) →
    after.ambiguous = aliases.ambiguous → after.get? name = some target →
    Claimed aliases same name target after

/-- A claim drops the alias, keeps it dropped, or lets it lead to who claims it. -/
lemma claimed (aliases : Aliases α) (same : α → α → Bool) (name : String) (target : α) :
    Claimed aliases same name target (aliases.claim same name target) := by
  unfold claim
  split
  · next h => exact .dropped (List.contains_iff_mem.1 h)
  · next fresh =>
    have fresh : name ∉ aliases.ambiguous := fun h => fresh (List.contains_iff_mem.2 h)
    split
    · next holder held =>
      split
      · next agrees =>
        refine .held fresh (fun other h => ?_) rfl ((Table.get?_insert ..).trans (if_pos rfl))
        obtain rfl := Option.some.inj (held.symm.trans h)
        exact agrees
      · next differs => exact .conflict fresh held differs rfl
    · next free =>
      refine .held fresh (fun other h => ?_) rfl ((Table.get?_insert ..).trans (if_pos rfl))
      cases free.symm.trans h

/-- The aliases after some claims, one after another. Types are the same if they have the same
key. -/
def ofClaims (key : α → String) (claims : List (String × α)) : Aliases α :=
  claims.foldl (fun aliases claim => aliases.claim (key · == key ·) claim.1 claim.2) empty

/-- The claims that some types make on second names, each on its own. A type whose second name is
its key makes none. -/
def claimsOf (second key : α → String) (values : List α) : List (String × α) :=
  (values.filter fun value => second value ≠ key value).map fun value => (second value, value)

/-- One more type makes one more claim, unless its second name is its key. -/
lemma claimsOf_concat (second key : α → String) (values : List α) (value : α) :
    claimsOf second key (values ++ [value]) =
      if second value = key value then claimsOf second key values
      else claimsOf second key values ++ [(second value, value)] := by
  rw [claimsOf, List.filter_append, List.map_append]
  split
  · next own => simp [own, claimsOf]
  · next aliased => simp [aliased, claimsOf]

/-- All values have the same key. -/
def OneKey (key : α → String) (values : List α) : Prop :=
  ∀ a ∈ values, ∀ b ∈ values, key a = key b

/-- No values have different keys. -/
lemma oneKey_nil (key : α → String) : OneKey key [] :=
  nofun

/-- One more value has the key of the others if it has that of the last one. -/
lemma oneKey_concat {key : α → String} {values : List α} {value : α} :
    OneKey key (values ++ [value]) ↔
      OneKey key values ∧ ∀ last, values.getLast? = some last → key last = key value := by
  have end_mem : value ∈ values ++ [value] := List.mem_append_right _ (.head _)
  constructor
  · intro one
    refine ⟨fun a ha b hb => one a (List.mem_append_left _ ha) b (List.mem_append_left _ hb), ?_⟩
    exact fun last h => one last (List.mem_append_left _ (List.mem_of_getLast? h)) value end_mem
  · rintro ⟨one, last⟩
    have agrees : ∀ a ∈ values ++ [value], key a = key value := by
      intro a ha
      obtain ha | ha := List.mem_append.1 ha
      · have h := List.getLast?_eq_some_getLast (List.ne_nil_of_mem ha)
        exact (one a ha _ (List.mem_of_getLast? h)).trans (last _ h)
      · rw [List.mem_singleton.1 ha]
    exact fun a ha b hb => (agrees a ha).trans (agrees b hb).symm

/-- Aliases as some claims left them. -/
structure Recalls (key : α → String) (claims : List (String × α)) (aliases : Aliases α) : Prop where
  ambiguous : ∀ name, name ∈ aliases.ambiguous ↔ ¬ OneKey key (valuesOf name claims)
  target : ∀ name, OneKey key (valuesOf name claims) →
    aliases.get? name = (valuesOf name claims).getLast?
  dropped : aliases.Dropped

/-- Without claims there is nothing to recall. -/
lemma Recalls.empty (key : α → String) : Recalls key [] empty where
  ambiguous _ := iff_of_false (List.not_mem_nil) (not_not_intro (oneKey_nil key))
  target _ _ := rfl
  dropped := dropped_empty

namespace Recalls

variable {key : α → String} {claims : List (String × α)}

/-- Aliases recall one more claim if it changed nothing but the claimed alias. -/
lemma concat {after : Aliases α} (recalls : Recalls key claims aliases) (dropped : after.Dropped)
    (others : ∀ other, name ≠ other → after.get? other = aliases.get? other ∧
      (other ∈ after.ambiguous ↔ other ∈ aliases.ambiguous))
    (ambiguous : name ∈ after.ambiguous ↔ ¬ OneKey key (valuesOf name claims ++ [target]))
    (held : OneKey key (valuesOf name claims ++ [target]) → after.get? name = some target) :
    Recalls key (claims ++ [(name, target)]) after := by
  refine ⟨fun other => ?_, fun other one => ?_, dropped⟩
  · rw [valuesOf_concat]
    split
    · next same => exact same ▸ ambiguous
    · next differs => rw [(others other differs).2, recalls.ambiguous]
  · rw [valuesOf_concat] at one ⊢
    split
    · next same =>
      subst same
      rw [if_pos rfl] at one
      rw [held one, List.getLast?_concat]
    · next differs =>
      rw [if_neg differs] at one
      rw [(others other differs).1, recalls.target other one]

/-- Aliases recall a claim that is made on them. -/
lemma claim (recalls : Recalls key claims aliases) (name : String) (target : α) :
    Recalls key (claims ++ [(name, target)])
      (aliases.claim (fun a b => key a == key b) name target) := by
  have elsewhere (other : String) (differs : name ≠ other) :
      (aliases.claim (fun a b => key a == key b) name target).get? other = aliases.get? other :=
    get?_claim_of_ne (Ne.symm differs)
  have dropped := recalls.dropped.claim (fun a b => key a == key b) name target
  have change := aliases.claimed (fun a b => key a == key b) name target
  generalize aliases.claim (fun a b => key a == key b) name target = after at *
  cases change with
  | dropped ambiguous =>
    -- the earlier claims differ among themselves
    have mixed : ¬ OneKey key (valuesOf name claims ++ [target]) := fun one =>
      (recalls.ambiguous name).1 ambiguous (oneKey_concat.1 one).1
    refine recalls.concat dropped (fun _ _ => ⟨rfl, .rfl⟩) (iff_of_true ambiguous mixed) ?_
    exact fun one => absurd one mixed
  | @conflict _ holder fresh leads differs grown =>
    -- the earlier claims agree, and the new one differs from the last of them
    have one : OneKey key (valuesOf name claims) :=
      not_not.1 fun mixed => fresh ((recalls.ambiguous name).2 mixed)
    have mixed : ¬ OneKey key (valuesOf name claims ++ [target]) := by
      intro all
      rw [recalls.target name one] at leads
      exact differs (beq_iff_eq.2 ((oneKey_concat.1 all).2 holder leads))
    refine recalls.concat dropped (fun other apart => ⟨elsewhere other apart, ?_⟩) ?_ ?_
    · rw [grown, List.mem_cons, or_iff_right (Ne.symm apart)]
    · exact iff_of_true (grown ▸ .head _) mixed
    · exact fun all => absurd all mixed
  | held fresh agrees kept leads =>
    -- the earlier claims agree with the new one
    have one : OneKey key (valuesOf name claims) :=
      not_not.1 fun mixed => fresh ((recalls.ambiguous name).2 mixed)
    have all : OneKey key (valuesOf name claims ++ [target]) := by
      refine oneKey_concat.2 ⟨one, fun last h => ?_⟩
      rw [← recalls.target name one] at h
      exact beq_iff_eq.1 (agrees last h)
    refine recalls.concat dropped (fun other apart => ⟨elsewhere other apart, kept ▸ .rfl⟩) ?_ ?_
    · exact iff_of_false (kept ▸ fresh) (not_not_intro all)
    · exact fun _ => leads

/-- Aliases recall the claims that made them. -/
lemma ofClaims (key : α → String) (claims : List (String × α)) :
    Recalls key claims (Aliases.ofClaims key claims) := by
  induction claims using List.reverseRecOn with
  | nil => exact empty key
  | append_singleton earlier claim ih =>
    rw [Aliases.ofClaims, List.foldl_append]
    exact ih.claim claim.1 claim.2

end Recalls

/-- An alias leads to the last type that claimed it if all that claimed it are the same. -/
lemma get?_ofClaims (key : α → String) (claims : List (String × α)) (name : String) (target : α) :
    (ofClaims key claims).get? name = some target ↔
      OneKey key (valuesOf name claims) ∧ (valuesOf name claims).getLast? = some target := by
  have recalls := Recalls.ofClaims key claims
  by_cases one : OneKey key (valuesOf name claims)
  · rw [recalls.target name one, and_iff_right one]
  · rw [recalls.dropped name ((recalls.ambiguous name).2 one)]
    exact iff_of_false nofun fun h => one h.1

end Aliases

end QueryExpr
