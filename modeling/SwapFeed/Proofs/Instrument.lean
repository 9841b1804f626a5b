import Mathlib.Data.List.ProdSigma
import SwapFeed.Instrument
import SwapFeed.Proofs.Entries

/-!
# Two ways through a table of instrument names

A table answers by the latest registration of a name or id, and by the suffix rule where there is
none.  So what a table says depends on the order of its registrations alone.  A table of configured
pairs translates to and fro without loss; registrations of the same name or id for something else
redirect one of the ways.
-/

namespace SwapFeed

namespace SymbolTable

/-! ## The suffix rule -/

/-- A name that is longer than the suffix and ends in it. -/
def Suffixed (name : String) : Prop :=
  ∃ stem, stem ≠ "" ∧ name = stem ++ swapSuffix

theorem stripSuffix?_eq_some_iff {name stem : String} :
    stripSuffix? name = some stem ↔ stem ≠ "" ∧ name = stem ++ swapSuffix := by
  rw [stripSuffix?]
  constructor
  · intro stripped
    split at stripped
    · next ends =>
        cases stripped
        constructor
        · intro empty
          have none := congrArg (·.toList.length) empty
          simp at none
          omega
        · rw [← String.toList_inj, String.toList_append, String.toList_ofList]
          exact (List.take_append_drop _ name.toList).symm.trans
            (congrArg (name.toList.take _ ++ ·) ends.2)
    · cases stripped
  · intro composed
    rcases composed with ⟨nonempty, rfl⟩
    have some : 0 < stem.toList.length := by
      rw [List.length_pos_iff]
      intro empty
      exact nonempty (String.toList_inj.mp (empty.trans String.toList_empty.symm))
    simp [some]

theorem isSome_stripSuffix?_iff {name : String} :
    (stripSuffix? name).isSome = true ↔ Suffixed name := by
  simp only [Option.isSome_iff_exists, stripSuffix?_eq_some_iff]
  rfl

/-! ## Registrations -/

/-- Register names one after the other, each canonical name with its native id. -/
def registerAll (table : SymbolTable) (entries : List (String × String)) : SymbolTable :=
  entries.foldl (fun table entry => table.register entry.1 entry.2) table

/-- The registrations of listed pairs. -/
def listed (pairs : List String) : List (String × String) :=
  pairs.map fun pair => (pair, pair ++ swapSuffix)

theorem natives_registerAll (table : SymbolTable) (entries : List (String × String)) :
    (table.registerAll entries).natives = entries.reverse ++ table.natives := by
  induction entries generalizing table with
  | nil => rfl
  | cons entry rest step =>
      change ((table.register entry.1 entry.2).registerAll rest).natives = _
      simp [step, register]

theorem canonicals_registerAll (table : SymbolTable) (entries : List (String × String)) :
    (table.registerAll entries).canonicals =
      (entries.map Prod.swap).reverse ++ table.canonicals := by
  induction entries generalizing table with
  | nil => rfl
  | cons entry rest step =>
      rcases entry with ⟨name, native⟩
      change ((table.register name native).registerAll rest).canonicals = _
      simp [step, register]

theorem ofPairs_eq_registerAll (pairs : List String) :
    ofPairs pairs = registerAll {} (listed pairs) := by
  rw [ofPairs, registerAll, listed, List.foldl_map]

theorem registerAll_ofPairs (pairs : List String) (added : List (String × String)) :
    (ofPairs pairs).registerAll added = registerAll {} (listed pairs ++ added) := by
  rw [ofPairs_eq_registerAll, registerAll, registerAll, registerAll, List.foldl_append]

theorem toCanonical_eq_ok_iff {table : SymbolTable} {native name : String} :
    table.toCanonical native = .ok name ↔
      table.canonicals.lookup native = some name ∨
        table.canonicals.lookup native = none ∧ stripSuffix? native = some name := by
  rw [toCanonical]
  cases table.canonicals.lookup native with
  | some owner => simp
  | none => cases stripSuffix? native <;> simp

/-- An id without a name is reported as it is. -/
theorem toCanonical_eq_error_iff {table : SymbolTable} {native : String} {reason : UnknownSymbol} :
    table.toCanonical native = .error reason ↔
      reason = ⟨native⟩ ∧ ∀ name, table.toCanonical native ≠ .ok name := by
  rw [toCanonical]
  cases table.canonicals.lookup native with
  | some owner => simp
  | none => cases stripSuffix? native <;> simp [eq_comm]

section Latest

variable {history : List (String × String)} {name native : String}

/-- The latest registration of a name settles its id. -/
theorem toNative_of_latest (latest : LatestEntry history name native) :
    (registerAll {} history).toNative name = native := by
  simp [toNative, natives_registerAll, lookup_reverse_eq_some_iff.mpr latest]

/-- The latest registration of an id settles its name. -/
theorem toCanonical_of_latest (latest : LatestEntry (history.map Prod.swap) native name) :
    (registerAll {} history).toCanonical native = .ok name := by
  simp [toCanonical, canonicals_registerAll, lookup_reverse_eq_some_iff.mpr latest]

end Latest

/-! ## Configured pairs -/

section Configured

variable {pairs : List String} {name native : String}

theorem mem_listed :
    (name, native) ∈ listed pairs ↔ name ∈ pairs ∧ native = name ++ swapSuffix := by
  simp only [listed, List.mem_map, Prod.mk.injEq]
  constructor
  · intro entry
    rcases entry with ⟨pair, member, rfl, rfl⟩
    exact ⟨member, rfl⟩
  · intro entry
    rcases entry with ⟨member, rfl⟩
    exact ⟨name, member, rfl, rfl⟩

theorem mem_swap_listed :
    (native, name) ∈ (listed pairs).map Prod.swap ↔ name ∈ pairs ∧ native = name ++ swapSuffix := by
  rw [List.mem_map_swap, mem_listed]

theorem lookup_canonicals_ofPairs_iff :
    (ofPairs pairs).canonicals.lookup native = some name ↔
      name ∈ pairs ∧ native = name ++ swapSuffix := by
  rw [ofPairs_eq_registerAll, canonicals_registerAll, List.append_nil, lookup_reverse_eq_some_iff]
  constructor
  · exact fun latest => mem_swap_listed.mp latest.mem
  · intro entry
    obtain ⟨owner, latest⟩ := exists_latestEntry (mem_swap_listed.mpr entry)
    have same : name ++ swapSuffix = owner ++ swapSuffix :=
      entry.2.symm.trans (mem_swap_listed.mp latest.mem).2
    rw [(String.append_left_inj swapSuffix).mp same]
    exact latest

/-- A listed pair, and any other name that has no suffix yet, gets the suffix. -/
theorem toNative_ofPairs (plain : name ∈ pairs ∨ ¬Suffixed name) :
    (ofPairs pairs).toNative name = name ++ swapSuffix := by
  by_cases member : name ∈ pairs
  · obtain ⟨native, latest⟩ := exists_latestEntry (mem_listed.mpr ⟨member, rfl⟩)
    rw [ofPairs_eq_registerAll, toNative_of_latest latest]
    exact (mem_listed.mp latest.mem).2
  · have unlisted : (ofPairs pairs).natives.lookup name = none := by
      rw [List.lookup_eq_none_iff, ofPairs_eq_registerAll, natives_registerAll, List.append_nil]
      intro entry found
      have there := mem_listed.mp (List.mem_reverse.mp found)
      exact bne_iff_ne.mpr fun same => member (same ▸ there.1)
    have unsuffixed : ¬(stripSuffix? name).isSome = true :=
      fun some => plain.resolve_left member (isSome_stripSuffix?_iff.mp some)
    simp only [toNative, unlisted, if_neg unsuffixed]

/-- An id loses the suffix; the suffix alone is an id only if the empty name is listed. -/
theorem toCanonical_ofPairs_eq_ok_iff :
    (ofPairs pairs).toCanonical native = .ok name ↔
      native = name ++ swapSuffix ∧ (name ∈ pairs ∨ name ≠ "") := by
  rw [toCanonical_eq_ok_iff, lookup_canonicals_ofPairs_iff, stripSuffix?_eq_some_iff]
  constructor
  · intro found
    rcases found with ⟨member, suffixed⟩ | ⟨-, nonempty, suffixed⟩
    · exact ⟨suffixed, .inl member⟩
    · exact ⟨suffixed, .inr nonempty⟩
  · intro found
    rcases found with ⟨rfl, known⟩
    by_cases member : name ∈ pairs
    · exact .inl ⟨member, rfl⟩
    · refine .inr ⟨?_, known.resolve_left member, rfl⟩
      rw [Option.eq_none_iff_forall_ne_some]
      intro owner found
      obtain ⟨listed, same⟩ := lookup_canonicals_ofPairs_iff.mp found
      exact member ((String.append_left_inj swapSuffix).mp same ▸ listed)

end Configured

/-- A listed pair, or a name that is neither empty nor suffixed. -/
def Translatable (pairs : List String) (name : String) : Prop :=
  name ∈ pairs ∨ (name ≠ "" ∧ ¬Suffixed name)

theorem Translatable.plain {pairs : List String} {name : String}
    (translatable : Translatable pairs name) : name ∈ pairs ∨ ¬Suffixed name :=
  translatable.imp_right (·.2)

/-- Configured pairs and unlisted names without a suffix come back from their ids, which they share
with none of the others.  An id comes back from the name that it is accepted for, unless that name
is unlisted and has a suffix itself.  Only what is neither the id of a listed pair nor suffixed is
refused, under its own id. -/
theorem translation_round_trips (pairs : List String) :
    let table : SymbolTable := ofPairs pairs
    (∀ name, Translatable pairs name → table.toCanonical (table.toNative name) = .ok name) ∧
      (∀ name other, Translatable pairs name → Translatable pairs other →
        table.toNative name = table.toNative other → name = other) ∧
      (∀ native name, table.toCanonical native = .ok name → name ∈ pairs ∨ ¬Suffixed name →
        table.toNative name = native) ∧
      ∀ native reason, table.toCanonical native = .error reason ↔
        reason = ⟨native⟩ ∧ (∀ pair ∈ pairs, native ≠ table.toNative pair) ∧ ¬Suffixed native := by
  intro table
  refine ⟨?_, ?_, ?_, ?_⟩
  · intro name translatable
    rw [toCanonical_ofPairs_eq_ok_iff]
    exact ⟨toNative_ofPairs translatable.plain, translatable.imp_right (·.1)⟩
  · intro name other translatable alsoTranslatable same
    rw [toNative_ofPairs translatable.plain, toNative_ofPairs alsoTranslatable.plain] at same
    exact (String.append_left_inj swapSuffix).mp same
  · intro native name accepted plain
    rw [toNative_ofPairs plain]
    exact (toCanonical_ofPairs_eq_ok_iff.mp accepted).1.symm
  · intro native reason
    rw [toCanonical_eq_error_iff]
    apply and_congr_right
    intro _
    constructor
    · intro refused
      constructor
      · intro pair member same
        refine refused pair (toCanonical_ofPairs_eq_ok_iff.mpr ⟨?_, .inl member⟩)
        rw [same, toNative_ofPairs (.inl member)]
      · intro suffixed
        rcases suffixed with ⟨stem, nonempty, composed⟩
        exact refused stem (toCanonical_ofPairs_eq_ok_iff.mpr ⟨composed, .inr nonempty⟩)
    · intro unknown name accepted
      rcases unknown with ⟨unlisted, unsuffixed⟩
      obtain ⟨composed, known⟩ := toCanonical_ofPairs_eq_ok_iff.mp accepted
      rcases known with member | nonempty
      · refine unlisted name member ?_
        rw [composed, toNative_ofPairs (.inl member)]
      · exact unsuffixed ⟨name, nonempty, composed⟩

/-! ## Explicit registrations -/

/-- Each name that was registered comes back from its id, and each id from its name. -/
def ReturnsAll (table : SymbolTable) (history : List (String × String)) : Prop :=
  ∀ entry ∈ history,
    table.toCanonical (table.toNative entry.1) = .ok entry.1 ∧
      ∃ owner, table.toCanonical entry.2 = .ok owner ∧ table.toNative owner = entry.2

/-- No name was registered with two ids, and no id for two names. -/
def OneToOne (history : List (String × String)) : Prop :=
  ∀ first ∈ history, ∀ second ∈ history, first.1 = second.1 ↔ first.2 = second.2

section History

variable {history : List (String × String)} {name native : String}

theorem latest_toNative (registered : (name, native) ∈ history) :
    LatestEntry history name ((registerAll {} history).toNative name) := by
  obtain ⟨settled, latest⟩ := exists_latestEntry registered
  rwa [toNative_of_latest latest]

theorem exists_latest_owner (registered : (name, native) ∈ history) :
    ∃ owner, (registerAll {} history).toCanonical native = .ok owner ∧
      LatestEntry (history.map Prod.swap) native owner := by
  obtain ⟨owner, latest⟩ := exists_latestEntry ((List.mem_map_swap _ _ _).mpr registered)
  exact ⟨owner, toCanonical_of_latest latest, latest⟩

/-- A registered id belongs to the name of its latest registration and to no other. -/
theorem toCanonical_eq_ok_iff_latest (registered : (name, native) ∈ history) {owner : String} :
    (registerAll {} history).toCanonical native = .ok owner ↔
      LatestEntry (history.map Prod.swap) native owner := by
  refine ⟨?_, toCanonical_of_latest⟩
  intro found
  obtain ⟨settled, known, latest⟩ := exists_latest_owner registered
  cases known.symm.trans found
  exact latest

theorem toNative_eq_iff_latest (registered : (name, native) ∈ history) {settled : String} :
    (registerAll {} history).toNative name = settled ↔ LatestEntry history name settled := by
  refine ⟨?_, toNative_of_latest⟩
  rintro rfl
  exact latest_toNative registered

/-- Registrations that contradict none of the others keep both ways together. -/
theorem returnsAll_of_oneToOne (oneToOne : OneToOne history) :
    (registerAll {} history).ReturnsAll history := by
  intro entry registered
  have named := latest_toNative registered
  have same : (registerAll {} history).toNative entry.1 = entry.2 :=
    (oneToOne _ named.mem _ registered).mp rfl
  obtain ⟨owner, owned, latest⟩ := exists_latest_owner registered
  have member : (owner, entry.2) ∈ history := (List.mem_map_swap _ _ _).mp latest.mem
  have back : owner = entry.1 := (oneToOne _ member _ registered).mpr rfl
  subst back
  exact ⟨by rw [same, owned], _, owned, same⟩

end History

/-- The latest registrations decide.  The id of a name is that of its latest registration, and it
returns the name exactly if its own latest registration is for that name; and likewise for the name
of an id.  So all come back as long as no name was registered with two ids and no id for two
names. -/
theorem latest_registrations_decide (pairs : List String) (added : List (String × String)) :
    let table : SymbolTable := (ofPairs pairs).registerAll added
    let history := listed pairs ++ added
    (∀ name native, (name, native) ∈ history →
      LatestEntry history name (table.toNative name) ∧
        (table.toCanonical (table.toNative name) = .ok name ↔
          LatestEntry (history.map Prod.swap) (table.toNative name) name) ∧
        ∃ owner, table.toCanonical native = .ok owner ∧
          LatestEntry (history.map Prod.swap) native owner ∧
          (table.toNative owner = native ↔ LatestEntry history owner native)) ∧
      (OneToOne history → table.ReturnsAll history) := by
  intro table history
  have built : table = registerAll {} history := registerAll_ofPairs pairs added
  rw [built]
  constructor
  · intro name native registered
    have named := latest_toNative registered
    obtain ⟨owner, owned, latest⟩ := exists_latest_owner registered
    refine ⟨named, toCanonical_eq_ok_iff_latest named.mem, owner, owned, latest, ?_⟩
    exact toNative_eq_iff_latest ((List.mem_map_swap _ _ _).mp latest.mem)
  · exact returnsAll_of_oneToOne

theorem latest_registrations_decide_bitcoin :
    let history := listed ["BTC-USDT"] ++ [("XBT-USD", "BTC-USD-SWAP")]
    let table := (ofPairs ["BTC-USDT"]).registerAll [("XBT-USD", "BTC-USD-SWAP")]
    OneToOne history ∧ table.ReturnsAll history ∧
      table.toNative "XBT-USD" = "BTC-USD-SWAP" ∧
      LatestEntry history "XBT-USD" "BTC-USD-SWAP" := by
  intro history table
  have oneToOne : OneToOne history := by
    unfold OneToOne
    decide +kernel
  have registered : ("XBT-USD", "BTC-USD-SWAP") ∈ history := by decide +kernel
  have settled : table.toNative "XBT-USD" = "BTC-USD-SWAP" := by decide +kernel
  obtain ⟨decided, returns⟩ :=
    latest_registrations_decide ["BTC-USDT"] [("XBT-USD", "BTC-USD-SWAP")]
  have latest := (decided _ _ registered).1
  exact ⟨oneToOne, returns oneToOne, settled, settled ▸ latest⟩

/-- The id of a pair, registered for a second name. -/
def sharedId : List (String × String) := [("XBT-USDT", "BTC-USDT-SWAP")]

/-- A pair, registered with a second id. -/
def movedName : List (String × String) := [("BTC-USDT", "XBT-USDT-SWAP")]

theorem not_returnsAll_sharedId_movedName :
    ¬((ofPairs ["BTC-USDT"]).registerAll sharedId).ReturnsAll (listed ["BTC-USDT"] ++ sharedId) ∧
      ¬((ofPairs ["BTC-USDT"]).registerAll movedName).ReturnsAll
        (listed ["BTC-USDT"] ++ movedName) := by
  have registered : ("BTC-USDT", "BTC-USDT-SWAP") ∈ listed ["BTC-USDT"] := by decide +kernel
  constructor
  · intro all
    have returned := (all _ (List.mem_append_left _ registered)).1
    have kept : ((ofPairs ["BTC-USDT"]).registerAll sharedId).toNative "BTC-USDT" =
        "BTC-USDT-SWAP" := by decide +kernel
    have taken : ((ofPairs ["BTC-USDT"]).registerAll sharedId).toCanonical "BTC-USDT-SWAP" =
        .ok "XBT-USDT" := toCanonical_register_self _ _ _
    rw [kept, taken] at returned
    exact absurd (Except.ok.inj returned) (by decide +kernel)
  · intro all
    obtain ⟨owner, owned, returned⟩ := (all _ (List.mem_append_left _ registered)).2
    have kept : ((ofPairs ["BTC-USDT"]).registerAll movedName).toCanonical "BTC-USDT-SWAP" =
        .ok "BTC-USDT" := by
      rw [registerAll_ofPairs]
      exact toCanonical_of_latest ⟨[], [("XBT-USDT-SWAP", "BTC-USDT")], rfl, by decide +kernel⟩
    have moved : ((ofPairs ["BTC-USDT"]).registerAll movedName).toNative "BTC-USDT" =
        "XBT-USDT-SWAP" := toNative_register_self _ _ _
    cases kept.symm.trans owned
    rw [moved] at returned
    exact absurd returned (by decide +kernel)

end SymbolTable

end SwapFeed
