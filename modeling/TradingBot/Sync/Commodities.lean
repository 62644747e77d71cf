import Mathlib.Data.List.Nodup
import TradingBot.Misc.Run
import TradingBot.Sync.Item

/-!
# Commodities and their aliases

The authoritative server changes commodities and aliases and logs an item for every change
(src/core/events.py:1385); the peer applies the items in the order of emission (`_apply_item`,
src/api/routers/sync.py:2987). Row ids differ: the peer finds a commodity by its name, an alias by
its text, and the commodity of an alias by the name in the item. A rename's item carries the new
name only.
-/

namespace TradingBot.Sync

open Misc

/-- A row of `commodities` (src/models/commodity.py). -/
structure Commodity where
  id : Nat
  name : String
  deriving DecidableEq, Repr

/-- A row of `commodity_aliases`. -/
structure CommodityAlias where
  id : Nat
  text : String
  commodityId : Nat
  deriving DecidableEq, Repr

structure Catalog where
  commodities : List Commodity := []
  aliases : List CommodityAlias := []
  nextCommodityId : Nat := 1
  nextAliasId : Nat := 1
  deriving DecidableEq, Repr

inductive CatalogItem where
  | commodity (operation : Operation) (recordId : Nat) (name : String)
  | commodityAlias (operation : Operation) (recordId : Nat) (text : String) (commodityId : Nat)
      (commodityName : Option String)
  deriving DecidableEq, Repr

namespace Catalog

variable (tables : Catalog) (id : Nat)

def hasName (name : String) : Bool := tables.commodities.any (·.name = name)

def hasAlias (text : String) : Bool := tables.aliases.any (·.text = text)

def commodityById : Option Commodity :=
  tables.commodities.find? (·.id = id)

/-- `_resolve_model_id_by_natural_key` for a commodity (sync.py:1821). -/
def commodityByName (name : String) : Option Commodity :=
  if name = "" then none else tables.commodities.find? (·.name = name)

def aliasById : Option CommodityAlias :=
  tables.aliases.find? (·.id = id)

/-- `_resolve_model_id_by_natural_key` for an alias. -/
def aliasByText (text : String) : Option CommodityAlias :=
  if text = "" then none else tables.aliases.find? (·.text = text)

def addCommodity (name : String) : Catalog :=
  { tables with commodities := tables.commodities ++ [⟨tables.nextCommodityId, name⟩],
                nextCommodityId := tables.nextCommodityId + 1 }

def addAlias (text : String) (commodityId : Nat) : Catalog :=
  { tables with aliases := tables.aliases ++ [⟨tables.nextAliasId, text, commodityId⟩],
                nextAliasId := tables.nextAliasId + 1 }

def removeCommodity : Catalog :=
  { tables with commodities := tables.commodities.filter (·.id ≠ id) }

def removeAlias : Catalog :=
  { tables with aliases := tables.aliases.filter (·.id ≠ id) }

def setName (name : String) : Catalog :=
  { tables with commodities := tables.commodities.map fun row =>
      if row.id = id then { row with name := name } else row }

def setAliasText (text : String) : Catalog :=
  { tables with aliases := tables.aliases.map fun row =>
      if row.id = id then { row with text := text } else row }

def setAliasCommodity (text : String) (commodityId : Nat) : Catalog :=
  { tables with aliases := tables.aliases.map fun row =>
      if row.text = text then { row with commodityId := commodityId } else row }

end Catalog

inductive CatalogOp where
  | insertCommodity (name : String)
  | renameCommodity (id : Nat) (name : String)
  | deleteCommodity (id : Nat)
  | insertAlias (text : String) (commodityId : Nat)
  | renameAlias (id : Nat) (text : String)
  | deleteAlias (id : Nat)
  deriving DecidableEq, Repr

structure Authority where
  tables : Catalog := {}
  log : List CatalogItem := []
  deriving DecidableEq, Repr

/-- The item of a change of an alias row (events.py:1437). -/
def aliasItem (tables : Catalog) (operation : Operation) (row : CommodityAlias) : CatalogItem :=
  .commodityAlias operation row.id row.text row.commodityId
    ((tables.commodityById row.commodityId).map (·.name))

def Authority.dropAlias (authority : Authority) (row : CommodityAlias) : Authority :=
  { tables := authority.tables.removeAlias row.id,
    log := authority.log ++ [aliasItem authority.tables .delete row] }

/-- A change on the authoritative server, rolled back where a key forbids it; the aliases of a
deleted commodity are deleted first. -/
def authorityStep (authority : Authority) : CatalogOp → Authority
  | .insertCommodity name =>
    if authority.tables.hasName name then authority
    else
      { tables := authority.tables.addCommodity name,
        log := authority.log ++ [.commodity .insert authority.tables.nextCommodityId name] }
  | .renameCommodity id name =>
    match authority.tables.commodityById id with
    | none => authority
    | some _ =>
      if authority.tables.hasName name then authority
      else
        { tables := authority.tables.setName id name,
          log := authority.log ++ [.commodity .update id name] }
  | .deleteCommodity id =>
    match authority.tables.commodityById id with
    | none => authority
    | some row =>
      let emptied := (authority.tables.aliases.filter (·.commodityId = id)).foldl
        Authority.dropAlias authority
      { tables := emptied.tables.removeCommodity id,
        log := emptied.log ++ [.commodity .delete id row.name] }
  | .insertAlias text commodityId =>
    match authority.tables.commodityById commodityId with
    | none => authority
    | some row =>
      if authority.tables.hasAlias text then authority
      else
        { tables := authority.tables.addAlias text commodityId,
          log := authority.log ++
            [.commodityAlias .insert authority.tables.nextAliasId text commodityId (some row.name)] }
  | .renameAlias id text =>
    match authority.tables.aliasById id with
    | none => authority
    | some row =>
      if authority.tables.hasAlias text then authority
      else
        { tables := authority.tables.setAliasText id text,
          log := authority.log ++
            [aliasItem authority.tables .update { row with text := text }] }
  | .deleteAlias id =>
    match authority.tables.aliasById id with
    | none => authority
    | some row => authority.dropAlias row

/-- The upsert of a commodity (sync.py:1508): on its name, or on its id when the name is empty. -/
def upsertCommodity (tables : Catalog) (recordId : Nat) (name : String) : Catalog :=
  if name ≠ "" then
    if tables.hasName name then tables else tables.addCommodity name
  else if tables.commodities.any (fun row => row.name = "" ∧ row.id ≠ recordId) then tables
  else
    match tables.commodityById recordId with
    | some _ => tables.setName recordId name
    | none =>
      { tables with commodities := tables.commodities ++ [⟨recordId, name⟩],
                    nextCommodityId := max tables.nextCommodityId (recordId + 1) }

/-- The upsert of an alias whose commodity is known (sync.py:1513). -/
def upsertAlias (tables : Catalog) (recordId : Nat) (text : String) (commodityId : Nat) :
    Catalog :=
  if tables.commodityById commodityId = none then tables
  else if text ≠ "" then
    if tables.hasAlias text then tables.setAliasCommodity text commodityId
    else tables.addAlias text commodityId
  else if tables.aliases.any (fun row => row.text = "" ∧ row.id ≠ recordId) then
    tables.setAliasCommodity text commodityId
  else
    { tables with
      aliases := tables.aliases.filter (·.id ≠ recordId) ++ [⟨recordId, text, commodityId⟩],
      nextAliasId := max tables.nextAliasId (recordId + 1) }

/-- `_localize_commodity_reference_by_name` (sync.py:1928): the local id; no result when the item
has to wait for the commodity. -/
def localizeCommodityReference (tables : Catalog) (commodityId : Nat)
    (commodityName : Option String) : Option Nat :=
  match nonemptyText commodityName with
  | none => some commodityId
  | some name => (tables.commodityByName name).map (·.id)

/-- `_apply_item` on the two tables; deferred, ignored and refused items leave them. -/
def applyCatalogItem (tables : Catalog) : CatalogItem → Catalog
  | .commodity .delete _ name =>
    match tables.commodityByName name with
    | none => tables
    | some row =>
      if tables.aliases.any (·.commodityId = row.id) then tables
      else tables.removeCommodity row.id
  | .commodity .unknown _ _ => tables
  | .commodity _ recordId name => upsertCommodity tables recordId name
  | .commodityAlias .delete _ text _ _ =>
    match tables.aliasByText text with
    | none => tables
    | some row => tables.removeAlias row.id
  | .commodityAlias .unknown _ _ _ _ => tables
  | .commodityAlias _ recordId text commodityId commodityName =>
    match localizeCommodityReference tables commodityId commodityName with
    | none => tables
    | some localId => upsertAlias tables recordId text localId

def replica (log : List CatalogItem) : Catalog := log.foldl applyCatalogItem {}

/-! ## Names and references -/

namespace Catalog

def Named (tables : Catalog) (name : String) : Prop := ∃ row ∈ tables.commodities, row.name = name

def Refers (tables : Catalog) (text name : String) : Prop :=
  ∃ row ∈ tables.aliases, row.text = text ∧
    ∃ owner ∈ tables.commodities, owner.id = row.commodityId ∧ owner.name = name

/-- Ids, names and texts are unique, every alias has a commodity, and the sequences are ahead of the
ids. -/
structure WellKeyed (tables : Catalog) : Prop where
  ids : ∀ row ∈ tables.commodities, ∀ other ∈ tables.commodities, row.id = other.id → row = other
  names : ∀ row ∈ tables.commodities, ∀ other ∈ tables.commodities,
    row.name = other.name → row = other
  aliasIds : (tables.aliases.map (·.id)).Nodup
  texts : ∀ row ∈ tables.aliases, ∀ other ∈ tables.aliases, row.text = other.text → row = other
  owners : ∀ row ∈ tables.aliases, ∃ owner ∈ tables.commodities, owner.id = row.commodityId
  freshCommodity : ∀ row ∈ tables.commodities, row.id < tables.nextCommodityId
  freshAlias : ∀ row ∈ tables.aliases, row.id < tables.nextAliasId

variable {tables : Catalog} {name text : String}

theorem hasName_iff : tables.hasName name = true ↔ tables.Named name := by
  simp [hasName, Named]

theorem hasAlias_iff :
    tables.hasAlias text = true ↔ ∃ row ∈ tables.aliases, row.text = text := by
  simp [hasAlias]

theorem mem_of_commodityById {id : Nat} {row : Commodity} (h : tables.commodityById id = some row) :
    row ∈ tables.commodities ∧ row.id = id :=
  ⟨List.mem_of_find?_eq_some h, by simpa using List.find?_some h⟩

theorem mem_of_aliasById {id : Nat} {row : CommodityAlias} (h : tables.aliasById id = some row) :
    row ∈ tables.aliases ∧ row.id = id :=
  ⟨List.mem_of_find?_eq_some h, by simpa using List.find?_some h⟩

theorem commodityByName_eq_some (hname : name ≠ "") (h : tables.Named name) :
    ∃ row, tables.commodityByName name = some row ∧ row ∈ tables.commodities ∧
      row.name = name := by
  rw [commodityByName, if_neg hname]
  cases hfind : tables.commodities.find? (·.name = name) with
  | none =>
    obtain ⟨row, hmem, hequal⟩ := h
    have hnone := List.find?_eq_none.mp hfind row hmem
    exact absurd (decide_eq_true hequal) hnone
  | some row =>
    exact ⟨row, rfl, List.mem_of_find?_eq_some hfind, by simpa using List.find?_some hfind⟩

theorem aliasByText_eq_some (htext : text ≠ "") (h : ∃ row ∈ tables.aliases, row.text = text) :
    ∃ row, tables.aliasByText text = some row ∧ row ∈ tables.aliases ∧ row.text = text := by
  rw [aliasByText, if_neg htext]
  cases hfind : tables.aliases.find? (·.text = text) with
  | none =>
    obtain ⟨row, hmem, hequal⟩ := h
    have hnone := List.find?_eq_none.mp hfind row hmem
    exact absurd (decide_eq_true hequal) hnone
  | some row =>
    exact ⟨row, rfl, List.mem_of_find?_eq_some hfind, by simpa using List.find?_some hfind⟩

namespace WellKeyed

theorem alias_iff_refers (h : tables.WellKeyed) :
    (∃ row ∈ tables.aliases, row.text = text) ↔ ∃ name, tables.Refers text name := by
  constructor
  · rintro ⟨row, hmem, htext⟩
    obtain ⟨owner, howner, hid⟩ := h.owners row hmem
    exact ⟨owner.name, row, hmem, htext, owner, howner, hid, rfl⟩
  · rintro ⟨_, row, hmem, htext, -⟩
    exact ⟨row, hmem, htext⟩

theorem addCommodity (h : tables.WellKeyed) (hnew : ¬tables.Named name) :
    (tables.addCommodity name).WellKeyed ∧
      (∀ other, (tables.addCommodity name).Named other ↔ tables.Named other ∨ other = name) ∧
      ∀ text other, (tables.addCommodity name).Refers text other ↔ tables.Refers text other := by
  have hcases : ∀ row ∈ (tables.addCommodity name).commodities,
      row ∈ tables.commodities ∨ row = ⟨tables.nextCommodityId, name⟩ := by
    intro row hrow
    simpa [Catalog.addCommodity] using hrow
  have hold : ∀ row ∈ tables.commodities, row ∈ (tables.addCommodity name).commodities :=
    fun row hrow => List.mem_append_left _ hrow
  refine ⟨⟨?_, ?_, h.aliasIds, h.texts, ?_, ?_, h.freshAlias⟩, ?_, ?_⟩
  · intro row hrow other hother hequal
    rcases hcases row hrow with hrow | rfl <;> rcases hcases other hother with hother | rfl
    · exact h.ids row hrow other hother hequal
    · exact absurd hequal (Nat.ne_of_lt (h.freshCommodity row hrow))
    · exact absurd hequal.symm (Nat.ne_of_lt (h.freshCommodity other hother))
    · rfl
  · intro row hrow other hother hequal
    rcases hcases row hrow with hrow | rfl <;> rcases hcases other hother with hother | rfl
    · exact h.names row hrow other hother hequal
    · exact absurd ⟨row, hrow, hequal⟩ hnew
    · exact absurd ⟨other, hother, hequal.symm⟩ hnew
    · rfl
  · intro row hrow
    obtain ⟨owner, howner, hid⟩ := h.owners row hrow
    exact ⟨owner, hold owner howner, hid⟩
  · intro row hrow
    rcases hcases row hrow with hrow | rfl
    · exact Nat.lt_succ_of_lt (h.freshCommodity row hrow)
    · exact Nat.lt_succ_self _
  · intro other
    constructor
    · rintro ⟨row, hrow, rfl⟩
      rcases hcases row hrow with hrow | rfl
      · exact Or.inl ⟨row, hrow, rfl⟩
      · exact Or.inr rfl
    · rintro (⟨row, hrow, rfl⟩ | rfl)
      · exact ⟨row, hold row hrow, rfl⟩
      · exact ⟨⟨tables.nextCommodityId, other⟩, by simp [Catalog.addCommodity], rfl⟩
  · intro text other
    constructor
    · rintro ⟨row, hrow, htext, owner, howner, hid, hname⟩
      rcases hcases owner howner with howner | rfl
      · exact ⟨row, hrow, htext, owner, howner, hid, hname⟩
      · -- no alias refers to the id of the new row
        obtain ⟨owner, howner, howns⟩ := h.owners row hrow
        have hfresh := h.freshCommodity owner howner
        exact absurd (howns.trans hid.symm) (Nat.ne_of_lt hfresh)
    · rintro ⟨row, hrow, htext, owner, howner, hid, hname⟩
      exact ⟨row, hrow, htext, owner, hold owner howner, hid, hname⟩

theorem addAlias (h : tables.WellKeyed) {owner : Commodity}
    (howner : owner ∈ tables.commodities) (hnew : ¬∃ row ∈ tables.aliases, row.text = text) :
    (tables.addAlias text owner.id).WellKeyed ∧
      ∀ other name, (tables.addAlias text owner.id).Refers other name ↔
        tables.Refers other name ∨ (other = text ∧ name = owner.name) := by
  have hcases : ∀ row ∈ (tables.addAlias text owner.id).aliases,
      row ∈ tables.aliases ∨ row = ⟨tables.nextAliasId, text, owner.id⟩ := by
    intro row hrow
    simpa [Catalog.addAlias] using hrow
  refine ⟨⟨h.ids, h.names, ?_, ?_, ?_, h.freshCommodity, ?_⟩, ?_⟩
  · have hfresh : tables.nextAliasId ∉ tables.aliases.map (·.id) := by
      intro hmem
      obtain ⟨row, hrow, hid⟩ := List.mem_map.mp hmem
      exact absurd hid (Nat.ne_of_lt (h.freshAlias row hrow))
    rw [Catalog.addAlias, List.map_append, List.map_singleton, ← List.concat_eq_append]
    exact List.Nodup.concat hfresh h.aliasIds
  · intro row hrow other hother hequal
    rcases hcases row hrow with hrow | rfl <;> rcases hcases other hother with hother | rfl
    · exact h.texts row hrow other hother hequal
    · exact absurd ⟨row, hrow, hequal⟩ hnew
    · exact absurd ⟨other, hother, hequal.symm⟩ hnew
    · rfl
  · intro row hrow
    rcases hcases row hrow with hrow | rfl
    · exact h.owners row hrow
    · exact ⟨owner, howner, rfl⟩
  · intro row hrow
    rcases hcases row hrow with hrow | rfl
    · exact Nat.lt_succ_of_lt (h.freshAlias row hrow)
    · exact Nat.lt_succ_self _
  · intro other name
    constructor
    · rintro ⟨row, hrow, htext, holder, hholder, hid, hname⟩
      rcases hcases row hrow with hrow | rfl
      · exact Or.inl ⟨row, hrow, htext, holder, hholder, hid, hname⟩
      · rw [h.ids holder hholder owner howner hid] at hname
        exact Or.inr ⟨htext.symm, hname.symm⟩
    · rintro (⟨row, hrow, htext, hrest⟩ | ⟨rfl, rfl⟩)
      · exact ⟨row, List.mem_append_left _ hrow, htext, hrest⟩
      · exact ⟨⟨tables.nextAliasId, other, owner.id⟩, by simp [Catalog.addAlias], rfl, owner,
          howner, rfl, rfl⟩

theorem removeAlias (h : tables.WellKeyed) {row : CommodityAlias} (hrow : row ∈ tables.aliases) :
    (tables.removeAlias row.id).WellKeyed ∧
      ∀ text name, (tables.removeAlias row.id).Refers text name ↔
        tables.Refers text name ∧ text ≠ row.text := by
  have hsub : ∀ other ∈ (tables.removeAlias row.id).aliases,
      other ∈ tables.aliases ∧ other.id ≠ row.id := by
    intro other hother
    simpa [Catalog.removeAlias] using hother
  refine ⟨⟨h.ids, h.names, ?_, ?_, ?_, h.freshCommodity, ?_⟩, ?_⟩
  · exact h.aliasIds.sublist (List.filter_sublist.map _)
  · exact fun first hfirst second hsecond =>
      h.texts first (hsub first hfirst).1 second (hsub second hsecond).1
  · exact fun other hother => h.owners other (hsub other hother).1
  · exact fun other hother => h.freshAlias other (hsub other hother).1
  · intro text name
    constructor
    · rintro ⟨other, hother, rfl, hrest⟩
      obtain ⟨hmem, hid⟩ := hsub other hother
      refine ⟨⟨other, hmem, rfl, hrest⟩, fun hequal => ?_⟩
      exact hid (congrArg CommodityAlias.id (h.texts other hmem row hrow hequal))
    · rintro ⟨⟨other, hother, rfl, hrest⟩, htext⟩
      refine ⟨other, ?_, rfl, hrest⟩
      have hid : other.id ≠ row.id := fun hequal =>
        htext (congrArg CommodityAlias.text (List.inj_on_of_nodup_map h.aliasIds hother hrow hequal))
      simp [Catalog.removeAlias, hother, hid]

theorem removeCommodity (h : tables.WellKeyed) {row : Commodity} (hrow : row ∈ tables.commodities)
    (hfree : ∀ other ∈ tables.aliases, other.commodityId ≠ row.id) :
    (tables.removeCommodity row.id).WellKeyed ∧
      (∀ name, (tables.removeCommodity row.id).Named name ↔
        tables.Named name ∧ name ≠ row.name) ∧
      ∀ text name, (tables.removeCommodity row.id).Refers text name ↔ tables.Refers text name := by
  have hmem : ∀ other, other ∈ (tables.removeCommodity row.id).commodities ↔
      other ∈ tables.commodities ∧ other.id ≠ row.id := by
    intro other
    simp [Catalog.removeCommodity]
  refine ⟨⟨?_, ?_, h.aliasIds, h.texts, ?_, ?_, h.freshAlias⟩, ?_, ?_⟩
  · exact fun first hfirst second hsecond =>
      h.ids first ((hmem first).mp hfirst).1 second ((hmem second).mp hsecond).1
  · exact fun first hfirst second hsecond =>
      h.names first ((hmem first).mp hfirst).1 second ((hmem second).mp hsecond).1
  · intro other hother
    obtain ⟨owner, howner, hid⟩ := h.owners other hother
    refine ⟨owner, (hmem owner).mpr ⟨howner, ?_⟩, hid⟩
    rw [hid]
    exact hfree other hother
  · exact fun other hother => h.freshCommodity other ((hmem other).mp hother).1
  · intro name
    constructor
    · rintro ⟨other, hother, rfl⟩
      obtain ⟨hkept, hid⟩ := (hmem other).mp hother
      refine ⟨⟨other, hkept, rfl⟩, fun hequal => ?_⟩
      exact hid (congrArg Commodity.id (h.names other hkept row hrow hequal))
    · rintro ⟨⟨other, hother, rfl⟩, hname⟩
      refine ⟨other, (hmem other).mpr ⟨hother, fun hequal => ?_⟩, rfl⟩
      exact hname (congrArg Commodity.name (h.ids other hother row hrow hequal))
  · intro text name
    constructor
    · rintro ⟨other, hother, htext, owner, howner, hrest⟩
      exact ⟨other, hother, htext, owner, ((hmem owner).mp howner).1, hrest⟩
    · rintro ⟨other, hother, htext, owner, howner, hid, hname⟩
      refine ⟨other, hother, htext, owner, (hmem owner).mpr ⟨howner, ?_⟩, hid, hname⟩
      rw [hid]
      exact hfree other hother

end WellKeyed

end Catalog

/-! ## The peer follows -/

/-- Nothing is renamed, names and texts are not empty, and a commodity that gets an alias has a name
without blanks around it. -/
def KeepsIdentity (authority : Authority) : CatalogOp → Prop
  | .insertCommodity name => name ≠ ""
  | .renameCommodity id name =>
    authority.tables.commodityById id = none ∨ authority.tables.hasName name = true
  | .insertAlias text commodityId =>
    text ≠ "" ∧ ∀ owner ∈ authority.tables.commodityById commodityId,
      pyStrip owner.name = owner.name
  | .renameAlias id text =>
    authority.tables.aliasById id = none ∨ authority.tables.hasAlias text = true
  | .deleteCommodity _ | .deleteAlias _ => True

instance (authority : Authority) : ∀ op, Decidable (KeepsIdentity authority op)
  | .insertCommodity name => inferInstanceAs (Decidable (name ≠ ""))
  | .renameCommodity _ _ | .renameAlias _ _ => inferInstanceAs (Decidable (_ ∨ _))
  | .insertAlias _ _ => inferInstanceAs (Decidable (_ ∧ _))
  | .deleteCommodity _ | .deleteAlias _ => inferInstanceAs (Decidable True)

/-- The peer's tables agree with the authoritative ones in names and references. -/
structure Replicated (tables peer : Catalog) : Prop where
  keyed : tables.WellKeyed
  peerKeyed : peer.WellKeyed
  names : ∀ name, tables.Named name ↔ peer.Named name
  references : ∀ text name, tables.Refers text name ↔ peer.Refers text name
  nonempty : ∀ row ∈ tables.commodities, row.name ≠ ""
  nonemptyAlias : ∀ row ∈ tables.aliases, row.text ≠ ""

namespace Replicated

variable {tables peer : Catalog}

theorem alias_iff (h : Replicated tables peer) {text : String} :
    (∃ row ∈ tables.aliases, row.text = text) ↔ ∃ row ∈ peer.aliases, row.text = text := by
  rw [h.keyed.alias_iff_refers, h.peerKeyed.alias_iff_refers]
  exact exists_congr fun name => h.references text name

theorem insertCommodity (h : Replicated tables peer) {name : String} (recordId : Nat)
    (hname : name ≠ "") (hnew : ¬tables.Named name) :
    Replicated (tables.addCommodity name)
      (applyCatalogItem peer (.commodity .insert recordId name)) := by
  have hpeerNew : ¬peer.Named name := fun hpeer => hnew ((h.names name).mpr hpeer)
  have happly : applyCatalogItem peer (.commodity .insert recordId name) =
      peer.addCommodity name := by
    have hfree : ¬peer.hasName name = true := fun hhas => hpeerNew (Catalog.hasName_iff.mp hhas)
    simp only [applyCatalogItem, upsertCommodity, if_pos hname, if_neg hfree]
  obtain ⟨hkeyed, hnames, hrefers⟩ := h.keyed.addCommodity hnew
  obtain ⟨hpeerKeyed, hpeerNames, hpeerRefers⟩ := h.peerKeyed.addCommodity hpeerNew
  rw [happly]
  refine ⟨hkeyed, hpeerKeyed, ?_, ?_, ?_, h.nonemptyAlias⟩
  · intro other
    rw [hnames, hpeerNames, h.names other]
  · intro text other
    rw [hrefers, hpeerRefers]
    exact h.references text other
  · exact List.forall_mem_append.mpr ⟨h.nonempty, List.forall_mem_singleton.mpr hname⟩

theorem insertAlias (h : Replicated tables peer) {text : String} {owner : Commodity}
    (recordId : Nat) (htext : text ≠ "") (howner : owner ∈ tables.commodities)
    (hstrip : pyStrip owner.name = owner.name) (hnew : ¬∃ row ∈ tables.aliases, row.text = text) :
    Replicated (tables.addAlias text owner.id) (applyCatalogItem peer
      (.commodityAlias .insert recordId text owner.id (some owner.name))) := by
  have hname := h.nonempty owner howner
  obtain ⟨local', hfind, hlocal, hlocalName⟩ := Catalog.commodityByName_eq_some hname
    ((h.names owner.name).mp ⟨owner, howner, rfl⟩)
  have hpeerNew : ¬∃ row ∈ peer.aliases, row.text = text := fun hpeer => hnew (h.alias_iff.mpr hpeer)
  have happly : applyCatalogItem peer (.commodityAlias .insert recordId text owner.id
      (some owner.name)) = peer.addAlias text local'.id := by
    have hnonempty : nonemptyText (some owner.name) = some owner.name := by
      simp only [nonemptyText, stripOrEmpty, Option.getD_some, hstrip, if_neg hname]
    have hfree : ¬peer.hasAlias text = true := fun hhas => hpeerNew (Catalog.hasAlias_iff.mp hhas)
    have hexists : ¬peer.commodityById local'.id = none := by
      intro hnone
      have hmiss := List.find?_eq_none.mp hnone local' hlocal
      simp at hmiss
    simp only [applyCatalogItem, localizeCommodityReference, hnonempty, hfind, Option.map_some,
      upsertAlias, if_neg hexists, if_pos htext, if_neg hfree]
  obtain ⟨hkeyed, hrefers⟩ := h.keyed.addAlias howner hnew
  obtain ⟨hpeerKeyed, hpeerRefers⟩ := h.peerKeyed.addAlias hlocal hpeerNew
  rw [happly]
  refine ⟨hkeyed, hpeerKeyed, h.names, ?_, h.nonempty, ?_⟩
  · intro other name
    rw [hrefers, hpeerRefers, h.references other name, hlocalName]
  · exact List.forall_mem_append.mpr ⟨h.nonemptyAlias, List.forall_mem_singleton.mpr htext⟩

theorem dropAlias (h : Replicated tables peer) {row : CommodityAlias} (hrow : row ∈ tables.aliases) :
    Replicated (tables.removeAlias row.id)
      (applyCatalogItem peer (aliasItem tables .delete row)) := by
  obtain ⟨found, hfind, hfound, htext⟩ :=
    Catalog.aliasByText_eq_some (h.nonemptyAlias row hrow) (h.alias_iff.mp ⟨row, hrow, rfl⟩)
  have happly : applyCatalogItem peer (aliasItem tables .delete row) =
      peer.removeAlias found.id := by
    simp only [aliasItem, applyCatalogItem, hfind]
  obtain ⟨hkeyed, hrefers⟩ := h.keyed.removeAlias hrow
  obtain ⟨hpeerKeyed, hpeerRefers⟩ := h.peerKeyed.removeAlias hfound
  rw [happly]
  refine ⟨hkeyed, hpeerKeyed, h.names, ?_, h.nonempty, ?_⟩
  · intro other name
    rw [hrefers, hpeerRefers, h.references other name, htext]
  · exact fun other hother => h.nonemptyAlias other (List.mem_filter.mp hother).1

theorem dropCommodity (h : Replicated tables peer) {row : Commodity}
    (hrow : row ∈ tables.commodities)
    (hfree : ∀ other ∈ tables.aliases, other.commodityId ≠ row.id) :
    Replicated (tables.removeCommodity row.id)
      (applyCatalogItem peer (.commodity .delete row.id row.name)) := by
  obtain ⟨found, hfind, hfound, hname⟩ := Catalog.commodityByName_eq_some (h.nonempty row hrow)
    ((h.names row.name).mp ⟨row, hrow, rfl⟩)
  -- an alias of the peer's row would be an alias of the authoritative one
  have hpeerFree : ∀ other ∈ peer.aliases, other.commodityId ≠ found.id := by
    intro other hother hid
    have hrefers : peer.Refers other.text row.name :=
      ⟨other, hother, rfl, found, hfound, hid.symm, hname⟩
    obtain ⟨alias', halias, -, owner, howner, hownerId, hownerName⟩ :=
      (h.references other.text row.name).mpr hrefers
    have hsame := h.keyed.names owner howner row hrow hownerName
    exact hfree alias' halias (by rw [← hownerId, hsame])
  have happly : applyCatalogItem peer (.commodity .delete row.id row.name) =
      peer.removeCommodity found.id := by
    have hnone : ¬peer.aliases.any (·.commodityId = found.id) = true := by
      simpa using hpeerFree
    simp only [applyCatalogItem, hfind, if_neg hnone]
  obtain ⟨hkeyed, hnames, hrefers⟩ := h.keyed.removeCommodity hrow hfree
  obtain ⟨hpeerKeyed, hpeerNames, hpeerRefers⟩ := h.peerKeyed.removeCommodity hfound hpeerFree
  rw [happly]
  refine ⟨hkeyed, hpeerKeyed, ?_, ?_, ?_, h.nonemptyAlias⟩
  · intro name
    rw [hnames, hpeerNames, h.names name, hname]
  · intro text name
    rw [hrefers, hpeerRefers]
    exact h.references text name
  · exact fun other hother => h.nonempty other (List.mem_filter.mp hother).1

end Replicated

theorem replica_append (log : List CatalogItem) (item : CatalogItem) :
    replica (log ++ [item]) = applyCatalogItem (replica log) item := by
  simp [replica]

theorem dropAliases_replicated (rows : List CommodityAlias) (authority : Authority)
    (h : Replicated authority.tables (replica authority.log))
    (hrows : ∀ row ∈ rows, row ∈ authority.tables.aliases) (hdistinct : (rows.map (·.id)).Nodup) :
    let after := rows.foldl Authority.dropAlias authority
    Replicated after.tables (replica after.log) ∧
      after.tables.commodities = authority.tables.commodities ∧
      ∀ row ∈ after.tables.aliases, row ∈ authority.tables.aliases ∧ row ∉ rows := by
  induction rows generalizing authority with
  | nil => exact ⟨h, rfl, fun row hrow => ⟨hrow, List.not_mem_nil⟩⟩
  | cons first rest ih =>
    rw [List.map_cons, List.nodup_cons] at hdistinct
    have hfirst := hrows first List.mem_cons_self
    have hnext : Replicated (authority.dropAlias first).tables
        (replica (authority.dropAlias first).log) := by
      simp only [Authority.dropAlias, replica_append]
      exact h.dropAlias hfirst
    have hrest : ∀ row ∈ rest, row ∈ (authority.dropAlias first).tables.aliases := by
      intro row hrow
      have hid : row.id ≠ first.id := fun hequal =>
        hdistinct.1 (List.mem_map.mpr ⟨row, hrow, hequal⟩)
      simp [Authority.dropAlias, Catalog.removeAlias, hrows row (List.mem_cons_of_mem _ hrow), hid]
    obtain ⟨hafter, hcommodities, haliases⟩ := ih _ hnext hrest hdistinct.2
    refine ⟨hafter, hcommodities, fun row hrow => ?_⟩
    obtain ⟨hkept, hnot⟩ := haliases row hrow
    simp only [Authority.dropAlias, Catalog.removeAlias, List.mem_filter, decide_eq_true_eq]
      at hkept
    refine ⟨hkept.1, fun hmem => ?_⟩
    rcases List.mem_cons.mp hmem with rfl | hmem
    · exact hkept.2 rfl
    · exact hnot hmem

theorem authorityStep_replicated {authority : Authority} {op : CatalogOp}
    (h : Replicated authority.tables (replica authority.log)) (hop : KeepsIdentity authority op) :
    Replicated (authorityStep authority op).tables (replica (authorityStep authority op).log) := by
  cases op with
  | insertCommodity name =>
    simp only [authorityStep]
    by_cases hused : authority.tables.hasName name = true
    · rw [if_pos hused]
      exact h
    · rw [if_neg hused]
      simp only [replica_append]
      exact h.insertCommodity _ hop fun hnamed => hused (Catalog.hasName_iff.mpr hnamed)
  | renameCommodity id name =>
    simp only [authorityStep]
    cases hfind : authority.tables.commodityById id with
    | none => exact h
    | some row =>
      rcases hop with hnone | hused
      · rw [hfind] at hnone
        cases hnone
      · simp only [hused, if_true]
        exact h
  | deleteCommodity id =>
    simp only [authorityStep]
    cases hfind : authority.tables.commodityById id with
    | none => exact h
    | some row =>
      obtain ⟨hrow, rfl⟩ := Catalog.mem_of_commodityById hfind
      have hrows : ∀ other ∈ authority.tables.aliases.filter (·.commodityId = row.id),
          other ∈ authority.tables.aliases := fun other hother => (List.mem_filter.mp hother).1
      have hdistinct : ((authority.tables.aliases.filter (·.commodityId = row.id)).map
          (·.id)).Nodup := h.keyed.aliasIds.sublist (List.filter_sublist.map _)
      obtain ⟨hemptied, hcommodities, haliases⟩ :=
        dropAliases_replicated _ authority h hrows hdistinct
      simp only [replica_append]
      refine hemptied.dropCommodity (by rw [hcommodities]; exact hrow) fun other hother hid => ?_
      obtain ⟨hold, hnot⟩ := haliases other hother
      exact hnot (List.mem_filter.mpr ⟨hold, decide_eq_true hid⟩)
  | insertAlias text commodityId =>
    simp only [authorityStep]
    cases hfind : authority.tables.commodityById commodityId with
    | none => exact h
    | some owner =>
      obtain ⟨howner, rfl⟩ := Catalog.mem_of_commodityById hfind
      by_cases hused : authority.tables.hasAlias text = true
      · simp only [hused, if_true]
        exact h
      · simp only [hused, Bool.false_eq_true, if_false, replica_append]
        exact h.insertAlias _ hop.1 howner (hop.2 owner hfind)
          fun halias => hused (Catalog.hasAlias_iff.mpr halias)
  | renameAlias id text =>
    simp only [authorityStep]
    cases hfind : authority.tables.aliasById id with
    | none => exact h
    | some row =>
      rcases hop with hnone | hused
      · rw [hfind] at hnone
        cases hnone
      · simp only [hused, if_true]
        exact h
  | deleteAlias id =>
    simp only [authorityStep]
    cases hfind : authority.tables.aliasById id with
    | none => exact h
    | some row =>
      simp only [Authority.dropAlias, replica_append]
      exact h.dropAlias (Catalog.mem_of_aliasById hfind).1

/-- After changes that rename nothing, the peer that applied the change log holds the same commodity
names and the same aliases for each. -/
theorem peer_follows_catalog (ops : List CatalogOp)
    (hops : EachStep authorityStep (fun authority op _ => KeepsIdentity authority op) {} ops) :
    let authority := run authorityStep {} ops
    (∀ name, authority.tables.Named name ↔ (replica authority.log).Named name) ∧
      ∀ text name, authority.tables.Refers text name ↔
        (replica authority.log).Refers text name := by
  intro authority
  have hempty : Catalog.WellKeyed {} := by
    constructor <;> simp
  have hstart : Replicated (Authority.tables {}) (replica (Authority.log {})) :=
    ⟨hempty, hempty, fun _ => Iff.rfl, fun _ _ => Iff.rfl, (fun _ hrow => by cases hrow),
      (fun _ hrow => by cases hrow)⟩
  have hreplicated : Replicated authority.tables (replica authority.log) :=
    run_invariant (I := fun s : Authority => Replicated s.tables (replica s.log))
      (fun _ _ h hop => authorityStep_replicated h hop) ops _ hstart hops
  exact ⟨hreplicated.names, hreplicated.references⟩

def twoCommodities : List CatalogOp :=
  [.insertCommodity "gold", .insertAlias "xau" 1, .insertCommodity "silver",
   .insertAlias "xag" 2, .deleteCommodity 1]

theorem twoCommodities_followed :
    (replica (run authorityStep {} twoCommodities).log).Named "silver" ∧
      (replica (run authorityStep {} twoCommodities).log).Refers "xag" "silver" ∧
      ¬(replica (run authorityStep {} twoCommodities).log).Named "gold" := by
  obtain ⟨hnames, hrefers⟩ := peer_follows_catalog twoCommodities (by decide)
  have htables : (run authorityStep {} twoCommodities).tables =
      { commodities := [⟨2, "silver"⟩], aliases := [⟨2, "xag", 2⟩], nextCommodityId := 3,
        nextAliasId := 3 } := by decide
  rw [htables] at hnames hrefers
  refine ⟨(hnames "silver").mp ⟨⟨2, "silver"⟩, by simp, rfl⟩,
    (hrefers "xag" "silver").mp ⟨⟨2, "xag", 2⟩, by simp, rfl, ⟨2, "silver"⟩, by simp, rfl, rfl⟩, ?_⟩
  rw [← hnames "gold"]
  rintro ⟨row, hrow, hname⟩
  rw [List.mem_singleton] at hrow
  subst hrow
  exact absurd hname (by decide)

/-- A renamed commodity is inserted under its new name; the row of the old name stays. -/
theorem rename_leaves_old_name :
    let authority := run authorityStep {} [.insertCommodity "gold", .renameCommodity 1 "coin"]
    authority.tables.hasName "gold" = false ∧ (replica authority.log).hasName "gold" = true := by
  decide

end TradingBot.Sync
