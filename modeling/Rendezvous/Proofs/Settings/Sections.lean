import Mathlib.Data.List.Nodup
import Mathlib.Tactic.MkIffOfInductiveProp
import Rendezvous.Proofs.Scenario.Decisions
import Rendezvous.Settings.Reader

/-!
What a section gives.

The keys of a table fit a section if the section knows each of them and none is given twice,
whatever the spelling.  A table whose keys fit gives each value under the name of its key,
and what is looked up there depends neither on the order of the entries nor on the spelling
of their keys.
-/

set_option autoImplicit false

namespace Rendezvous

namespace Settings

namespace Key

/-- The name of the key that a text spells; a text that spells none is its own name. -/
def canonical (keys : List Key) (text : String) : String :=
  ((matches? keys text).map Key.name).getD text

theorem canonical_of_matches {keys : List Key} {text : String} {key : Key}
    (found : matches? keys text = some key) : canonical keys text = key.name := by
  rw [canonical, found]
  rfl

theorem mem_of_matches {keys : List Key} {text : String} {key : Key}
    (found : matches? keys text = some key) : key ∈ keys :=
  List.mem_of_find?_eq_some found

theorem spelled_of_matches {keys : List Key} {text : String} {key : Key}
    (found : matches? keys text = some key) : text ∈ key.name :: key.spellings := by
  have spelled := List.find?_some found
  simp only [Bool.or_eq_true, decide_eq_true_eq, List.contains_iff_mem] at spelled
  exact List.mem_cons.mpr (spelled.imp_left Eq.symm)

/-- Where no key has other spellings, every text is its own name. -/
theorem canonical_self {keys : List Key} (plain : keys.all (·.spellings.isEmpty) = true)
    (text : String) : canonical keys text = text := by
  cases found : matches? keys text with
  | none =>
      rw [canonical, found]
      rfl
  | some key =>
      have alone := List.all_eq_true.mp plain key (mem_of_matches found)
      have spelled := spelled_of_matches found
      rw [List.isEmpty_iff.mp alone, List.mem_singleton] at spelled
      rw [canonical_of_matches found, spelled]

end Key

namespace Section

/-- Each of the keys is known, and none is given twice. -/
@[mk_iff]
structure Fits (keys : List Key) (texts : List String) : Prop where
  known : ∀ text ∈ texts, ∃ key, Key.matches? keys text = some key
  once : (texts.map (Key.canonical keys)).Nodup

/-- The values of a table under the names of their keys. -/
def named (keys : List Key) (entries : Toml.Table) : Section :=
  entries.map fun entry => (Key.canonical keys entry.1, entry.2)

theorem lookup_eq_none_iff {values : Section} {name : String} :
    values.lookup name = none ↔ name ∉ values.map Prod.fst := by
  simp only [List.lookup_eq_none_iff, bne_iff_ne, List.mem_map, not_exists, not_and]
  exact ⟨fun absent entry place same => absent entry place same.symm,
    fun absent entry place same => absent entry place same.symm⟩

theorem mem_of_lookup {values : Section} {name : String} {value : Toml.Value}
    (found : values.lookup name = some value) : (name, value) ∈ values := by
  obtain ⟨before, after, rfl, -⟩ := List.lookup_eq_some_iff.mp found
  exact List.mem_append_right before List.mem_cons_self

theorem lookup_eq_some_iff_mem {values : Section} (once : (values.map Prod.fst).Nodup)
    {name : String} {value : Toml.Value} :
    values.lookup name = some value ↔ (name, value) ∈ values := by
  refine ⟨mem_of_lookup, fun given => List.lookup_eq_some_iff.mpr ?_⟩
  obtain ⟨before, after, rfl⟩ := List.append_of_mem given
  refine ⟨before, after, rfl, fun entry place => bne_iff_ne.mpr fun same => ?_⟩
  rw [List.map_append, List.nodup_append] at once
  exact once.2.2 _ (List.mem_map_of_mem place) _ List.mem_cons_self same.symm

theorem named_names (keys : List Key) (entries : Toml.Table) :
    (named keys entries).map Prod.fst = (entries.map Prod.fst).map (Key.canonical keys) := by
  simp [named]

theorem fits_cons_iff {keys : List Key} {text : String} {texts : List String} :
    Fits keys (text :: texts) ↔
      (∃ key, Key.matches? keys text = some key) ∧ Fits keys texts ∧
        Key.canonical keys text ∉ texts.map (Key.canonical keys) := by
  constructor
  · rintro ⟨known, once⟩
    rw [List.map_cons, List.nodup_cons] at once
    exact ⟨known text List.mem_cons_self,
      ⟨fun other place => known other (List.mem_cons_of_mem text place), once.2⟩, once.1⟩
  · rintro ⟨found, ⟨known, once⟩, fresh⟩
    exact ⟨List.forall_mem_cons.mpr ⟨found, known⟩, List.nodup_cons.mpr ⟨fresh, once⟩⟩

/-- A table gives its values exactly if its keys fit. -/
theorem ofTable_eq_ok_iff {keys : List Key} {entries : Toml.Table} {given : Section} :
    ofTable keys entries = .ok given ↔
      Fits keys (entries.map Prod.fst) ∧ given = named keys entries := by
  induction entries generalizing given with
  | nil =>
      refine ⟨fun same => ⟨⟨?_, List.nodup_nil⟩, ?_⟩, fun ⟨_, same⟩ => ?_⟩
      · simp
      · exact (Except.ok.inj same).symm
      · rw [same]
        rfl
  | cons entry entries inductionHypothesis =>
      obtain ⟨text, value⟩ := entry
      rw [List.map_cons, fits_cons_iff]
      cases found : Key.matches? keys text with
      | none => simp [ofTable, found, throw, throwThe, MonadExceptOf.throw]
      | some key =>
          have name := Key.canonical_of_matches found
          have unfolded : ofTable keys ((text, value) :: entries) = .ok given ↔
              ∃ others, ofTable keys entries = .ok others ∧ key.name ∉ others.map Prod.fst ∧
                given = (key.name, value) :: others := by
            simp only [ofTable, found, Except.bind_eq_ok_iff]
            refine exists_congr fun others => and_congr_right fun _ => ?_
            rw [← lookup_eq_none_iff]
            cases repeated : others.lookup key.name with
            | none => simp [pure, Except.pure, eq_comm]
            | some other => simp [throw, throwThe, MonadExceptOf.throw, bind, Except.bind]
          rw [unfolded]
          constructor
          · rintro ⟨others, rest, fresh, rfl⟩
            obtain ⟨fits, rfl⟩ := inductionHypothesis.mp rest
            rw [named_names, ← name] at fresh
            exact ⟨⟨⟨key, rfl⟩, fits, fresh⟩, by rw [← name]; rfl⟩
          · rintro ⟨⟨_, fits, fresh⟩, rfl⟩
            rw [← named_names, name] at fresh
            exact ⟨_, inductionHypothesis.mpr ⟨fits, rfl⟩, fresh, by rw [← name]; rfl⟩

theorem Fits.perm {keys : List Key} {texts others : List String} (fits : Fits keys texts)
    (same : texts.Perm others) : Fits keys others where
  known text place := fits.known text (same.mem_iff.mpr place)
  once := (same.map _).nodup_iff.mp fits.once

/-- What a table gives under a name is the value of the entry whose key spells it. -/
theorem Fits.lookup_named {keys : List Key} {entries : Toml.Table}
    (fits : Fits keys (entries.map Prod.fst)) {name : String} {value : Toml.Value} :
    (named keys entries).lookup name = some value ↔
      ∃ text, (text, value) ∈ entries ∧ Key.canonical keys text = name := by
  rw [lookup_eq_some_iff_mem (by rw [named_names]; exact fits.once), named, List.mem_map]
  constructor
  · rintro ⟨⟨text, _⟩, place, same⟩
    cases same
    exact ⟨text, place, rfl⟩
  · rintro ⟨text, place, rfl⟩
    exact ⟨(text, value), place, rfl⟩

theorem Fits.lookup_eq_some {keys : List Key} {entries : Toml.Table}
    (fits : Fits keys (entries.map Prod.fst)) {text : String} {value : Toml.Value}
    (listed : (text, value) ∈ entries) : entries.lookup text = some value :=
  (lookup_eq_some_iff_mem (fits.once.of_map _)).mpr listed

/-- The order of the entries does not matter. -/
theorem Fits.lookup_perm {keys : List Key} {entries others : Toml.Table}
    (fits : Fits keys (entries.map Prod.fst)) (same : entries.Perm others) (name : String) :
    (named keys entries).lookup name = (named keys others).lookup name := by
  refine Option.ext fun value => ?_
  rw [fits.lookup_named, (fits.perm (same.map _)).lookup_named]
  simp only [same.mem_iff]

/-- Another value under one key changes what is given under its name only. -/
theorem Fits.lookup_replaced {keys : List Key} {before after : Toml.Table} {text : String}
    {value : Toml.Value} (fits : Fits keys ((before ++ (text, value) :: after).map Prod.fst))
    (other : Toml.Value) (name : String) :
    (named keys (before ++ (text, value) :: after)).lookup name =
        (named keys (before ++ (text, other) :: after)).lookup name ∨
      name = Key.canonical keys text ∧
        (named keys (before ++ (text, value) :: after)).lookup name = some value ∧
        (named keys (before ++ (text, other) :: after)).lookup name = some other := by
  by_cases here : name = Key.canonical keys text
  · have alsoFits : Fits keys ((before ++ (text, other) :: after).map Prod.fst) := by
      simpa using fits
    refine .inr ⟨here, fits.lookup_named.mpr ⟨text, ?_, here.symm⟩,
      alsoFits.lookup_named.mpr ⟨text, ?_, here.symm⟩⟩ <;> simp
  · left
    simp [named, List.lookup_append, List.lookup_cons, beq_eq_false_iff_ne.mpr here]

/-- A key at the end fits if it is known and not given yet. -/
theorem fits_concat_iff {keys : List Key} {texts : List String} {text : String} {key : Key}
    (found : Key.matches? keys text = some key)
    (fresh : Key.canonical keys text ∉ texts.map (Key.canonical keys)) :
    Fits keys (texts ++ [text]) ↔ Fits keys texts := by
  have moved : (texts ++ [text]).Perm (text :: texts) := List.perm_append_singleton text texts
  constructor
  · intro fits
    exact (fits_cons_iff.mp (fits.perm moved)).2.1
  · intro fits
    exact (fits_cons_iff.mpr ⟨⟨key, found⟩, fits, fresh⟩).perm moved.symm

/-- A value at the end is given under its own name only. -/
theorem lookup_concat {keys : List Key} {entries : Toml.Table} {text : String}
    (fresh : Key.canonical keys text ∉ (entries.map Prod.fst).map (Key.canonical keys))
    (value : Toml.Value) (name : String) :
    (named keys (entries ++ [(text, value)])).lookup name =
        (named keys entries).lookup name ∨
      name = Key.canonical keys text ∧ (named keys entries).lookup name = none ∧
        (named keys (entries ++ [(text, value)])).lookup name = some value := by
  rw [← named_names] at fresh
  by_cases here : name = Key.canonical keys text
  · have absent : (named keys entries).lookup name = none :=
      lookup_eq_none_iff.mpr (here ▸ fresh)
    refine .inr ⟨here, absent, ?_⟩
    rw [named, List.map_append, List.lookup_append, ← named, absent]
    simp [here]
  · left
    simp [named, List.lookup_append, List.lookup_cons, beq_eq_false_iff_ne.mpr here]

/-- Another item of an array changes what is given under one name. -/
theorem lookup_ofArray_replaced (keys : List Key) (before after : List Toml.Value)
    (value other : Toml.Value) :
    Option.Rel
      (fun given others => ∀ name, List.lookup name given = List.lookup name others ∨
        List.lookup name given = some value ∧ List.lookup name others = some other)
      (ofArray keys (before ++ value :: after)).toOption
      (ofArray keys (before ++ other :: after)).toOption := by
  induction keys generalizing before with
  | nil => exact .some fun name => .inl rfl
  | cons key keys inductionHypothesis =>
      cases before with
      | nil =>
          simp only [List.nil_append, ofArray]
          cases ofArray keys after with
          | error cause => exact .none
          | ok given =>
              refine .some fun name => ?_
              by_cases here : name = key.name
              · exact .inr ⟨by simp [here], by simp [here]⟩
              · exact .inl (by simp [List.lookup_cons, beq_eq_false_iff_ne.mpr here])
      | cons item before =>
          have rest := inductionHypothesis before
          simp only [List.cons_append, ofArray]
          generalize ofArray keys (before ++ value :: after) = one at rest ⊢
          generalize ofArray keys (before ++ other :: after) = two at rest ⊢
          cases one <;> cases two <;> cases rest
          · exact .none
          · rename_i related
            refine .some fun name => ?_
            rw [List.lookup_cons, List.lookup_cons]
            cases name == key.name
            · exact related name
            · exact .inl rfl

end Section

end Settings

end Rendezvous
