import SqlAssist.Proofs.Sql.Bindings
import SqlAssist.Proofs.Sql.Layout
import SqlAssist.Proofs.Text.Search
import SqlAssist.Proofs.Text.UpperCase

/-!
# Where the names of tables come from

Every name and alias that is read of a text is a piece of it, and what is left to read is its end.
So the keys of a level's tables are made of characters of the level (`mem_of_mem_keys_ofText`), and
those of a level in capitals are in capitals: there, looking a name up takes one step
(`lookup_ofText_upper_eq`).
-/

namespace SqlAssist

/-! ### Targets -/

namespace Target

variable {t rest name word : Text} {g : Target}

/-- The name and the alias of the target are pieces of the text. -/
structure IsRead (t : Text) (g : Target) : Prop where
  /-- The name is a piece. -/
  name : ∀ n, g.name = some n → n <:+: t
  /-- The alias is a piece. -/
  aliasName : ∀ a, g.aliasName = some a → a <:+: t

theorem IsRead.mono (h : IsRead rest g) (ht : rest <:+ t) : IsRead t g where
  name n hn := (h.name n hn).trans ht.isInfix
  aliasName a ha := (h.aliasName a ha).trans ht.isInfix

theorem moreParts_append (n : Nat) (t : Text) : (moreParts n t).1 ++ (moreParts n t).2 = t := by
  fun_induction moreParts n t with
  | case1 => rfl
  | case2 n r part hp more rest e ih =>
    rw [e] at ih
    have hrest : more ++ rest = r.dropWhile Text.isNameChar := ih
    change '.' :: part ++ more ++ rest = '.' :: r
    rw [List.append_assoc, hrest, List.cons_append, List.takeWhile_append_dropWhile]
  | case3 => rfl

theorem append_of_readName? (h : readName? t = some (name, rest)) : name ++ rest = t := by
  rw [readName?] at h
  split_ifs at h
  obtain ⟨rfl, rfl⟩ := Prod.mk.inj (Option.some.inj h)
  rw [List.append_assoc, moreParts_append, List.takeWhile_append_dropWhile]

theorem readSpacedName?_eq_some (h : readSpacedName? t = some (word, rest)) :
    word ++ rest <:+ t := by
  rw [readSpacedName?] at h
  split_ifs at h
  obtain ⟨rfl, rfl⟩ := Prod.mk.inj (Option.some.inj h)
  rw [List.takeWhile_append_dropWhile]
  exact List.dropWhile_suffix _

theorem readAlias?_eq_some (h : readAlias? t = some (word, rest)) : word ++ rest <:+ t := by
  rw [readAlias?] at h
  split at h
  · cases h
  · next w r e =>
    have hr := readSpacedName?_eq_some e
    split_ifs at h
    · rcases Option.or_eq_some_iff.mp h with h | ⟨-, h⟩
      · exact ((readSpacedName?_eq_some h).trans (List.suffix_append w r)).trans hr
      · exact (Prod.mk.inj (Option.some.inj h)).1 ▸ (Prod.mk.inj (Option.some.inj h)).2 ▸ hr
    · exact (Prod.mk.inj (Option.some.inj h)).1 ▸ (Prod.mk.inj (Option.some.inj h)).2 ▸ hr

theorem exists_of_afterGroup? (h : afterGroup? t = some rest) :
    ∃ r, t = '(' :: r ∧ ')' :: rest <:+ r := by
  unfold afterGroup? at h
  split at h
  · next r =>
    split at h
    · next s hs =>
      obtain rfl := Option.some.inj h
      exact ⟨r, rfl, hs ▸ List.dropWhile_suffix _⟩
    · cases h
  · cases h

theorem suffix_of_afterGroup? (h : afterGroup? t = some rest) : rest <:+ t := by
  obtain ⟨r, rfl, hr⟩ := exists_of_afterGroup? h
  exact ((List.suffix_cons ')' rest).trans hr).trans (List.suffix_cons '(' r)

/-- A target with the alias at the start of a text has its name and a piece of the text. -/
theorem withAlias_isRead (hname : ∀ n, name? = some n → n <:+: t) (h : withAlias name? rest = (g, r))
    (hrest : rest <:+ t) : IsRead t g ∧ r <:+ t := by
  rw [withAlias] at h
  split at h
  · next a r' e =>
    obtain ⟨rfl, rfl⟩ := Prod.mk.inj h
    have ha := (readAlias?_eq_some e).trans hrest
    refine ⟨⟨hname, fun b hb => ?_⟩, (List.suffix_append a r').trans ha⟩
    obtain rfl := Option.some.inj hb
    exact (List.prefix_append a r').isInfix.trans ha.isInfix
  · obtain ⟨rfl, rfl⟩ := Prod.mk.inj h
    exact ⟨⟨hname, fun b hb => by cases hb⟩, hrest⟩

theorem readNamed?_isRead (h : readNamed? t = some (g, rest)) : IsRead t g ∧ rest <:+ t := by
  obtain ⟨⟨name, r⟩, hname, hg⟩ := Option.map_eq_some_iff.mp h
  have happend := append_of_readName? hname
  refine withAlias_isRead (fun n hn => ?_) hg ⟨name, happend⟩
  rw [← Option.some.inj hn, ← happend]
  exact (List.prefix_append name r).isInfix

theorem read?_isRead (h : read? t = some (g, rest)) : IsRead t g ∧ rest <:+ t := by
  rw [read?] at h
  split at h
  · next e => exact readNamed?_isRead (e.trans h)
  · obtain ⟨r, hr, hg⟩ := Option.map_eq_some_iff.mp h
    exact withAlias_isRead (fun n hn => by cases hn) hg (suffix_of_afterGroup? hr)

theorem suffix_of_afterComma? (h : afterComma? t = some rest) : rest <:+ t := by
  rw [afterComma?] at h
  split at h
  · next r hr =>
    obtain rfl := Option.some.inj h
    have ht : ',' :: r <:+ t := hr ▸ List.dropWhile_suffix _
    exact ((List.dropWhile_suffix _).trans (List.suffix_cons ',' r)).trans ht
  · cases h

theorem isRead_of_mem_readList {n : Nat} (h : g ∈ readList n t) : IsRead t g := by
  induction n generalizing t with
  | zero => exact absurd h List.not_mem_nil
  | succ n ih =>
    rw [readList] at h
    split at h
    · exact absurd h List.not_mem_nil
    · next first rest e =>
      obtain ⟨hfirst, hrest⟩ := read?_isRead e
      split_ifs at h
      · exact List.mem_singleton.mp h ▸ hfirst
      · split at h
        · next r hr =>
          rcases List.mem_cons.mp h with rfl | h
          · exact hfirst
          · exact (ih h).mono ((suffix_of_afterComma? hr).trans hrest)
        · exact List.mem_singleton.mp h ▸ hfirst

end Target

/-! ### Keys -/

namespace Resolution

variable {t : Text} {g : Target}

theorem isRead_of_mem_targets (h : g ∈ targets t) : g.IsRead t := by
  obtain ⟨x, hx, hg⟩ := List.mem_flatMap.mp h
  refine Target.IsRead.mono ?_ (Text.suffix_of_mem_wordStarts hx).1
  rw [targetsAt] at hg
  split at hg
  · next r _ hr => exact (Target.isRead_of_mem_readList hg).mono (Text.suffix_of_afterKeywords? hr)
  · next r _ hr =>
    obtain ⟨⟨first, rest⟩, hfirst, rfl⟩ := List.mem_map.mp hg
    rw [Option.mem_toList] at hfirst
    exact (Target.read?_isRead hfirst).1.mono (Text.suffix_of_afterKeywords? hr)
  · exact absurd hg List.not_mem_nil

theorem isRead_of_updated? (h : updated? t = some g) : g.IsRead t := by
  obtain ⟨r, hr, hg⟩ := List.exists_of_findSome?_eq_some h
  obtain ⟨⟨first, rest⟩, hfirst, rfl⟩ := Option.map_eq_some_iff.mp hg
  exact (Target.readNamed?_isRead hfirst).1.mono (Text.suffix_of_mem_afterEachKeywords hr)

theorem isRead_of_mem_registered (h : g ∈ registered t) : g.IsRead t := by
  rcases List.mem_append.mp h with h | h
  · exact isRead_of_mem_targets h
  · exact isRead_of_updated? (Option.mem_toList.mp h)

theorem infix_of_firstName? {ks : List Text} {name : Text} (h : firstName? ks t = some name) :
    name <:+: t := by
  obtain ⟨r, hr, hname⟩ := List.exists_of_findSome?_eq_some h
  obtain ⟨⟨first, rest⟩, hfirst, rfl⟩ := Option.map_eq_some_iff.mp hname
  have hpiece : first <:+: r := ⟨[], rest, Target.append_of_readName? hfirst⟩
  exact hpiece.trans (Text.suffix_of_mem_afterEachKeywords hr).isInfix

theorem infix_of_mem_tableNames {name : Text} (h : name ∈ tableNames t) : name <:+: t := by
  rcases mem_tableNames_iff.mp h with ⟨g, hg, hname⟩ | h
  · exact (isRead_of_mem_registered hg).name name hname
  · exact infix_of_firstName? h

theorem mem_of_mem_ofName {name : Text} {c : Char} (h : c ∈ (TableRef.ofName name).table) : c ∈ name := by
  have hpart : ∀ part ∈ ((name.split '.').filter (!·.isEmpty)).reverse, ∀ c ∈ part, c ∈ name :=
    fun part hp c hc =>
      Text.mem_of_mem_split (List.mem_filter.mp (List.mem_reverse.mp hp)).1 hc
  rw [TableRef.ofName] at h
  split at h
  · next table schema _ e => exact hpart table (e ▸ List.mem_cons_self) c h
  · next table e => exact hpart table (e ▸ List.mem_cons_self) c h
  · exact h

/-- The keys of a level's tables are made of characters of the level. -/
theorem mem_of_mem_keys_ofText {k : Text} (hk : k ∈ OrderedMap.keys (ofText t).tables) : ∀ c ∈ k, c ∈ t := by
  obtain ⟨ref, hmem⟩ := mem_keys_ofText_iff.mp hk
  rcases mem_bindings_iff.mp hmem with ⟨name, hname, rfl, rfl⟩ | ⟨g, hg, -, halias⟩
  · exact fun c hc => (infix_of_mem_tableNames hname).subset (mem_of_mem_ofName hc)
  · exact fun c hc =>
      ((isRead_of_mem_registered hg).aliasName k (Option.filter_eq_some_iff.mp halias).1).subset hc

/-- In a level in capitals a name is looked up in capitals. -/
theorem lookup_ofText_upper_eq (t name : Text) :
    (ofText t.upper).lookup name = (ofText t.upper).tables.get? name.upper := by
  rw [lookup]
  cases hname : (ofText t.upper).tables.get? name with
  | none => rfl
  | some ref =>
    have hkey := OrderedMap.mem_keys_of_get? hname
    rw [Text.upper_of_forall_mem (mem_of_mem_keys_ofText hkey), hname]
    rfl

end Resolution

end SqlAssist
