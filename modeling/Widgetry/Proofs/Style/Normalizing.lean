import Widgetry.Proofs.Style.Decoding

/-!
Normalizing styles. A scalar that is inserted changes what its own key means and nothing else, so
the last one that a bag supplies for a key stays. A style in normal form is known by what its keys
mean. Main statement: normalization finds for every key of a bucket the last scalar that the bag
supplies, and a style that comes out of it is not changed by normalizing it again.
-/

namespace Widgetry

namespace Bucket

variable {bucket : Bucket} {key : String}

theorem contains_iff : bucket.contains key = true ↔ key ∈ bucket.keys.map Prod.fst := by
  simp [contains]

/-- No key stands in two buckets. -/
theorem nodup_allKeys : (all.flatMap fun bucket => bucket.keys.map Prod.fst).Nodup := by decide

/-- A key stands in one bucket only, and so it is found there. -/
theorem ofKey?_eq_some_iff : ofKey? key = some bucket ↔ key ∈ bucket.keys.map Prod.fst := by
  constructor
  · intro h
    exact contains_iff.1 (List.find?_some h :)
  · have hown : ∀ key ∈ bucket.keys.map Prod.fst, ofKey? key = some bucket := by
      cases bucket <;> decide
    exact hown key

theorem ofKey?_eq_none_iff : ofKey? key = none ↔ ∀ bucket : Bucket, key ∉ bucket.keys.map Prod.fst := by
  rw [Option.eq_none_iff_forall_ne_some]
  exact forall_congr' fun bucket => not_congr ofKey?_eq_some_iff

theorem find?_arrange (h : key ∈ bucket.keys.map Prod.fst) (found : Entries) :
    Bag.find? key (bucket.arrange found) = Bag.find? key found :=
  Bag.find?_filterMap (fun name => Bag.find? name found) h

theorem arrange_arrange (bucket : Bucket) (found : Entries) :
    bucket.arrange (bucket.arrange found) = bucket.arrange found := by
  refine List.filterMap_congr fun entry hentry => ?_
  rw [find?_arrange (List.mem_map_of_mem hentry)]

end Bucket

/-! ## Inserting -/

namespace Style

variable {style : Style} {key : String} {value : StyleValue}

@[simp] theorem bucket_ofBuckets (entries : Bucket → Option Entries) (bucket : Bucket) :
    (ofBuckets entries).bucket bucket = entries bucket := by
  cases bucket <;> rfl

theorem get?_of_unknown (style : Style) (h : Bucket.ofKey? key = none) : style.get? key = none := by
  rw [get?, h]
  rfl

theorem get?_of_mem {bucket : Bucket} (h : key ∈ bucket.keys.map Prod.fst) :
    style.get? key = (style.bucket bucket).bind (Bag.find? key) := by
  rw [get?, Bucket.ofKey?_eq_some_iff.2 h]
  rfl

theorem insert_of_unknown (style : Style) (value : StyleValue) (h : Bucket.ofKey? key = none) :
    style.insert key value = style := by
  rw [insert, h]

theorem bucket_insert {owner : Bucket} (h : key ∈ owner.keys.map Prod.fst) (bucket : Bucket) :
    (style.insert key value).bucket bucket
      = if bucket = owner then some (Bag.put key value ((style.bucket bucket).getD []))
        else style.bucket bucket := by
  rw [insert, Bucket.ofKey?_eq_some_iff.2 h, bucket_ofBuckets]

theorem get?_insert {owner : Bucket} (h : key ∈ owner.keys.map Prod.fst) (other : String) :
    (style.insert key value).get? other = if other = key then some value else style.get? other := by
  cases hother : Bucket.ofKey? other with
  | none =>
    have hne : other ≠ key := by
      rintro rfl
      rw [Bucket.ofKey?_eq_some_iff.2 h] at hother
      cases hother
    rw [get?_of_unknown _ hother, get?_of_unknown _ hother, if_neg hne]
  | some bucket =>
    have hmem := Bucket.ofKey?_eq_some_iff.1 hother
    rw [get?_of_mem hmem, get?_of_mem hmem, bucket_insert h]
    by_cases heq : other = key
    · subst heq
      have howner : bucket = owner := by
        rw [Bucket.ofKey?_eq_some_iff.2 h] at hother
        exact (Option.some.inj hother).symm
      rw [if_pos howner, if_pos rfl]
      exact Bag.find?_put_self other value _
    · rw [if_neg heq]
      split_ifs
      · rw [Option.bind_some, Bag.find?_put_of_ne _ _ (Ne.symm heq)]
        cases style.bucket bucket <;> rfl
      · rfl

theorem get?_arranged (style : Style) (key : String) : style.arranged.get? key = style.get? key := by
  cases hkey : Bucket.ofKey? key with
  | none => rw [get?_of_unknown _ hkey, get?_of_unknown _ hkey]
  | some bucket =>
    have hmem := Bucket.ofKey?_eq_some_iff.1 hkey
    rw [get?_of_mem hmem, get?_of_mem hmem, arranged, bucket_ofBuckets]
    cases style.bucket bucket with
    | none => rfl
    | some entries => exact Bucket.find?_arrange hmem entries

/-- The style that scalars make when they are inserted one after the other. -/
def insertAll (style : Style) (supplied : List (String × StyleValue)) : Style :=
  supplied.foldl (fun style entry => insert style entry.1 entry.2) style

theorem insertAll_append (style : Style) (front back : List (String × StyleValue)) :
    style.insertAll (front ++ back) = (style.insertAll front).insertAll back :=
  List.foldl_append

/-- Of the values that are inserted for a key the last one counts. -/
theorem get?_insertAll {bucket : Bucket} (h : key ∈ bucket.keys.map Prod.fst)
    (supplied : List (String × StyleValue)) :
    (style.insertAll supplied).get? key
      = (Bag.find? key supplied.reverse).or (style.get? key) := by
  induction supplied generalizing style with
  | nil => rfl
  | cons entry rest ih =>
    obtain ⟨name, value⟩ := entry
    rw [insertAll, List.foldl_cons, ← insertAll, ih, List.reverse_cons, Bag.find?_append,
      Option.or_assoc]
    congr 1
    cases hname : Bucket.ofKey? name with
    | none =>
      have hne : name ≠ key := by
        rintro rfl
        rw [Bucket.ofKey?_eq_some_iff.2 h] at hname
        cases hname
      rw [insert_of_unknown style value hname]
      simp [Bag.find?, hne]
    | some owner =>
      rw [get?_insert (Bucket.ofKey?_eq_some_iff.1 hname)]
      by_cases heq : name = key
      · simp [Bag.find?, heq]
      · simp [Bag.find?, heq, Ne.symm heq]

/-! ## What a bag supplies -/

/-- The value that an entry of a bag supplies for a key. -/
inductive Supplies : String × Literal → String → StyleValue → Prop
  | scalar {key : String} {literal : Literal} {value : StyleValue} (hkey : key ≠ "shadowOffset")
      (h : literal = value.toLiteral) : Supplies (key, literal) key value
  | width {offset : Bag Literal} {value : StyleValue}
      (h : Bag.find? "width" offset = some value.toLiteral) :
      Supplies ("shadowOffset", .object offset) "shadowOffsetX" value
  | height {offset : Bag Literal} {value : StyleValue}
      (h : Bag.find? "height" offset = some value.toLiteral) :
      Supplies ("shadowOffset", .object offset) "shadowOffsetY" value

theorem supplies_iff_of_ne {name : String} {literal : Literal} (h : name ≠ "shadowOffset") :
    Supplies (name, literal) key value ↔ name = key ∧ literal = value.toLiteral := by
  constructor
  · intro hsupplies
    cases hsupplies with
    | scalar _ hliteral => exact ⟨rfl, hliteral⟩
    | width _ => exact absurd rfl h
    | height _ => exact absurd rfl h
  · rintro ⟨rfl, hliteral⟩
    exact .scalar h hliteral

/-- The last value that a bag supplies for a key. -/
def LastSupplied (bag : Bag Literal) (key : String) (value : StyleValue) : Prop :=
  ∃ front entry rest, bag = front ++ entry :: rest ∧ Supplies entry key value ∧
    ∀ later ∈ rest, ∀ other, ¬ Supplies later key other

theorem ofLiteral?_eq_some_iff {literal : Literal} :
    StyleValue.ofLiteral? literal = some value ↔ literal = value.toLiteral := by
  cases literal <;> cases value <;> simp [StyleValue.ofLiteral?, StyleValue.toLiteral]

theorem toLiteral_inj {a b : StyleValue} : a.toLiteral = b.toLiteral ↔ a = b := by
  cases a <;> cases b <;> simp [StyleValue.toLiteral]

theorem expandOffset_append (front back : Bag Literal) :
    expandOffset (front ++ back) = expandOffset front ++ expandOffset back := by
  induction front with
  | nil => rfl
  | cons entry rest ih =>
    obtain ⟨key, value⟩ := entry
    rw [List.cons_append, expandOffset.eq_def, expandOffset.eq_def ((key, value) :: rest)]
    dsimp only
    rw [ih]
    split_ifs
    · cases value <;> simp
    · rfl

theorem scalars_append (front back : Bag Literal) :
    scalars (front ++ back) = scalars front ++ scalars back := by
  rw [scalars, expandOffset_append, List.filterMap_append]
  rfl

theorem scalars_plain {name : String} (literal : Literal) (h : name ≠ "shadowOffset") :
    scalars [(name, literal)] = ((StyleValue.ofLiteral? literal).map (name, ·)).toList := by
  simp only [scalars, expandOffset, h, if_false]
  cases hvalue : StyleValue.ofLiteral? literal <;> simp [hvalue]

theorem scalars_offset (offset : Bag Literal) :
    scalars [("shadowOffset", .object offset)]
      = (((Bag.find? "width" offset).bind StyleValue.ofLiteral?).map ("shadowOffsetX", ·)).toList
        ++ (((Bag.find? "height" offset).bind StyleValue.ofLiteral?).map
          ("shadowOffsetY", ·)).toList := by
  have hpart : ∀ (name : String) (literal : Option Literal),
      ((literal.map fun found => (name, found)).toList.filterMap fun entry =>
        (StyleValue.ofLiteral? entry.2).map (entry.1, ·))
        = ((literal.bind StyleValue.ofLiteral?).map (name, ·)).toList := by
    intro name literal
    cases literal with
    | none => rfl
    | some literal => cases h : StyleValue.ofLiteral? literal <;> simp [h]
  simp only [scalars, expandOffset, if_true, List.append_nil, List.filterMap_append, hpart]

theorem mem_scalars_singleton {entry : String × Literal} :
    (key, value) ∈ scalars [entry] ↔ Supplies entry key value := by
  obtain ⟨name, literal⟩ := entry
  by_cases hname : name = "shadowOffset"
  · subst hname
    cases literal with
    | object offset =>
      simp only [scalars_offset, List.mem_append, Option.mem_toList, Option.map_eq_some_iff,
        Option.bind_eq_some_iff, ofLiteral?_eq_some_iff, Prod.mk.injEq]
      constructor
      · rintro (⟨_, ⟨_, hfind, rfl⟩, rfl, rfl⟩ | ⟨_, ⟨_, hfind, rfl⟩, rfl, rfl⟩)
        · exact .width hfind
        · exact .height hfind
      · intro h
        cases h with
        | scalar hkey _ => exact absurd rfl hkey
        | width hfind => exact .inl ⟨value, ⟨_, hfind, rfl⟩, rfl, rfl⟩
        | height hfind => exact .inr ⟨value, ⟨_, hfind, rfl⟩, rfl, rfl⟩
    | _ =>
      refine iff_of_false (fun h => ?_) (fun h => ?_)
      · cases h
      · cases h with
        | scalar hkey _ => exact hkey rfl
  · simp only [scalars_plain literal hname, Option.mem_toList, Option.map_eq_some_iff,
      ofLiteral?_eq_some_iff, Prod.mk.injEq, supplies_iff_of_ne hname]
    constructor
    · rintro ⟨_, hliteral, rfl, rfl⟩
      exact ⟨rfl, hliteral⟩
    · rintro ⟨rfl, hliteral⟩
      exact ⟨value, hliteral, rfl, rfl⟩

theorem distinct_scalars_singleton (entry : String × Literal) : Bag.Distinct (scalars [entry]) := by
  obtain ⟨name, literal⟩ := entry
  by_cases hname : name = "shadowOffset"
  · subst hname
    cases literal with
    | object offset =>
      rw [scalars_offset]
      cases (Bag.find? "width" offset).bind StyleValue.ofLiteral? <;>
        cases (Bag.find? "height" offset).bind StyleValue.ofLiteral? <;>
        simp [Bag.Distinct, Bag.names]
    | _ => exact List.nodup_nil
  · rw [scalars_plain literal hname]
    cases StyleValue.ofLiteral? literal <;> simp [Bag.Distinct, Bag.names]

theorem find?_scalars_singleton {entry : String × Literal} :
    Bag.find? key (scalars [entry]).reverse = some value ↔ Supplies entry key value := by
  have hdistinct := distinct_scalars_singleton entry
  rw [Bag.find?_perm hdistinct (List.reverse_perm _).symm, ← mem_scalars_singleton]
  exact ⟨Bag.mem_of_find?, Bag.find?_of_mem hdistinct⟩

theorem lastSupplied_concat {bag : Bag Literal} {entry : String × Literal} :
    LastSupplied (bag ++ [entry]) key value ↔ Supplies entry key value ∨
      (∀ other, ¬ Supplies entry key other) ∧ LastSupplied bag key value := by
  constructor
  · rintro ⟨front, found, rest, heq, hsupplies, hlater⟩
    rcases List.eq_nil_or_concat' rest with rfl | ⟨others, last, rfl⟩
    · obtain ⟨-, hentry⟩ := List.append_inj' heq rfl
      exact .inl (List.singleton_inj.1 hentry ▸ hsupplies)
    · rw [← List.cons_append, ← List.append_assoc] at heq
      obtain ⟨hbag, hentry⟩ := List.append_inj' heq rfl
      obtain rfl := List.singleton_inj.1 hentry
      refine .inr ⟨hlater entry (by simp), front, found, others, hbag, hsupplies, ?_⟩
      exact fun later hmem => hlater later (List.mem_append_left _ hmem)
  · rintro (hsupplies | ⟨hnone, front, found, rest, rfl, hsupplies, hlater⟩)
    · exact ⟨bag, entry, [], rfl, hsupplies, List.forall_mem_nil _⟩
    · refine ⟨front, found, rest ++ [entry], by simp, hsupplies, ?_⟩
      exact List.forall_mem_append.2 ⟨hlater, List.forall_mem_singleton.2 hnone⟩

/-! ## What normalization finds -/

theorem normalize_eq (bag : Bag Literal) : normalize bag = (insertAll {} (scalars bag)).arranged := rfl

theorem get?_empty (key : String) : get? {} key = none := by
  rw [get?]
  cases Bucket.ofKey? key with
  | none => rfl
  | some bucket => cases bucket <;> rfl

theorem get?_normalize_iff {bucket : Bucket} (h : key ∈ bucket.keys.map Prod.fst)
    (bag : Bag Literal) : (normalize bag).get? key = some value ↔ LastSupplied bag key value := by
  rw [normalize_eq, get?_arranged]
  induction bag using List.reverseRecOn with
  | nil =>
    refine iff_of_false ?_ ?_
    · rw [show scalars [] = [] from rfl]
      simp [insertAll, get?_empty]
    · rintro ⟨front, entry, rest, heq, -⟩
      simp at heq
  | append_singleton bag entry ih =>
    rw [scalars_append, insertAll_append, get?_insertAll h, lastSupplied_concat, ← ih]
    simp only [← find?_scalars_singleton]
    cases Bag.find? key (scalars [entry]).reverse <;> simp

/-! ## Normal forms -/

/-- Every bucket that is there has values, which stand in the order of its keys. -/
structure Normal (style : Style) : Prop where
  proper : style.Proper
  filled : ∀ bucket, style.bucket bucket ≠ some []

/-- A style in normal form is known by what its keys mean. -/
theorem Normal.bucket_eq {style : Style} (normal : style.Normal) (bucket : Bucket) :
    style.bucket bucket
      = (some (bucket.keys.filterMap fun entry => (style.get? entry.1).map (entry.1, ·))).filter
        fun entries => !entries.isEmpty := by
  have hget : ∀ entry ∈ bucket.keys,
      style.get? entry.1 = (style.bucket bucket).bind (Bag.find? entry.1) :=
    fun entry hentry => get?_of_mem (List.mem_map_of_mem hentry)
  rw [List.filterMap_congr fun entry hentry => by rw [hget entry hentry]]
  cases hbucket : style.bucket bucket with
  | none => simp [Option.filter]
  | some entries =>
    have hproper : (bucket.keys.filterMap fun entry =>
        (Bag.find? entry.1 entries).map (entry.1, ·)) = entries := normal.proper bucket entries hbucket
    have hfilled : entries ≠ [] := fun hempty => normal.filled bucket (hempty ▸ hbucket)
    simp [hproper, hfilled, Option.filter]

theorem Normal.ext {style other : Style} (normal : style.Normal) (hother : other.Normal)
    (h : ∀ key, style.get? key = other.get? key) : style = other := by
  have hbucket : style.bucket = other.bucket := by
    funext bucket
    rw [normal.bucket_eq, hother.bucket_eq]
    simp only [h]
  exact congrArg ofBuckets hbucket

/-- Every bucket that is there has a value for one of its keys. -/
def Filled (style : Style) : Prop :=
  ∀ bucket, ∀ entries ∈ style.bucket bucket, ∃ key ∈ bucket.keys.map Prod.fst,
    Bag.find? key entries ≠ none

theorem Filled.insert {style : Style} (filled : style.Filled) (key : String) (value : StyleValue) :
    (style.insert key value).Filled := by
  cases hkey : Bucket.ofKey? key with
  | none => rwa [insert_of_unknown style value hkey]
  | some owner =>
    have hmem := Bucket.ofKey?_eq_some_iff.1 hkey
    intro bucket entries hentries
    rw [bucket_insert hmem] at hentries
    split_ifs at hentries with howner
    · obtain rfl := Option.some.inj hentries
      exact ⟨key, howner ▸ hmem, by simp⟩
    · exact filled bucket entries hentries

theorem Filled.insertAll {style : Style} (filled : style.Filled)
    (supplied : List (String × StyleValue)) : (style.insertAll supplied).Filled := by
  induction supplied generalizing style with
  | nil => exact filled
  | cons entry rest ih => exact ih (filled.insert entry.1 entry.2)

theorem Filled.normal_arranged {style : Style} (filled : style.Filled) : style.arranged.Normal := by
  have hbucket : ∀ bucket, ∀ entries ∈ style.arranged.bucket bucket,
      ∃ found, style.bucket bucket = some found ∧ bucket.arrange found = entries := by
    intro bucket entries hentries
    rw [arranged, bucket_ofBuckets] at hentries
    exact Option.map_eq_some_iff.1 hentries
  refine ⟨fun bucket entries hentries => ?_, fun bucket hempty => ?_⟩
  · obtain ⟨found, -, rfl⟩ := hbucket bucket entries hentries
    exact bucket.arrange_arrange found
  · obtain ⟨found, hfound, harrange⟩ := hbucket bucket [] hempty
    obtain ⟨key, hkey, hsome⟩ := filled bucket found hfound
    rw [← Bucket.find?_arrange hkey, harrange] at hsome
    exact hsome rfl

theorem filled_empty : Filled {} := by
  intro bucket entries hentries
  cases bucket <;> cases hentries

theorem normal_normalize (bag : Bag Literal) : (normalize bag).Normal :=
  (filled_empty.insertAll (scalars bag)).normal_arranged

theorem proper_normalize (bag : Bag Literal) : (normalize bag).Proper := (normal_normalize bag).proper

/-! ## Flat bags -/

theorem Proper.names_sublist {style : Style} (proper : style.Proper) {bucket : Bucket}
    {entries : Entries} (h : style.bucket bucket = some entries) :
    entries.names.Sublist (bucket.keys.map Prod.fst) := by
  have hsublist := bucket.names_arrange_sublist entries
  rwa [proper bucket entries h] at hsublist

theorem Proper.mem_entries_iff {style : Style} (proper : style.Proper) :
    (key, value) ∈ style.entries ↔ style.get? key = some value := by
  rw [entries, List.mem_flatMap]
  constructor
  · rintro ⟨bucket, -, hmem⟩
    cases hbucket : style.bucket bucket with
    | none => simp [hbucket] at hmem
    | some entries =>
      rw [hbucket, Option.getD_some] at hmem
      have hnames := proper.names_sublist hbucket
      rw [get?_of_mem (hnames.subset (List.mem_map_of_mem hmem)), hbucket]
      exact Bag.find?_of_mem (hnames.nodup bucket.nodup_keys) hmem
  · intro h
    obtain ⟨bucket, -, hfound⟩ := Option.bind_eq_some_iff.1 h
    obtain ⟨entries, hbucket, hfind⟩ := Option.bind_eq_some_iff.1 hfound
    refine ⟨bucket, bucket.mem_all, ?_⟩
    rw [hbucket]
    exact Bag.mem_of_find? hfind

theorem Proper.distinct_entries {style : Style} (proper : style.Proper) :
    Bag.Distinct style.entries := by
  have hsublist : (Bag.names style.entries).Sublist
      (Bucket.all.flatMap fun bucket => bucket.keys.map Prod.fst) := by
    rw [Bag.names, entries, List.map_flatMap]
    refine List.Sublist.flatMap_right _ fun bucket _ => ?_
    cases hbucket : style.bucket bucket with
    | none => exact List.nil_sublist _
    | some entries => exact proper.names_sublist hbucket
  exact hsublist.nodup Bucket.nodup_allKeys

/-- Each entry of a flat bag supplies its own value and no other one. -/
theorem Proper.lastSupplied_flat_iff {style : Style} (proper : style.Proper) :
    LastSupplied style.flat key value ↔ (key, value) ∈ style.entries := by
  have hsupplies : ∀ entry ∈ style.entries, ∀ value,
      Supplies (entry.1, entry.2.toLiteral) key value ↔ entry = (key, value) := by
    rintro ⟨name, old⟩ hentry value
    have hname : name ≠ "shadowOffset" := by
      rintro rfl
      have hfound := proper.mem_entries_iff.1 hentry
      rw [get?_of_unknown style (by decide)] at hfound
      cases hfound
    rw [supplies_iff_of_ne hname, toLiteral_inj, Prod.mk.injEq]
  constructor
  · rintro ⟨front, found, rest, heq, hfound, -⟩
    have hmem : found ∈ style.flat := by simp [heq]
    obtain ⟨entry, hentry, rfl⟩ := List.mem_map.1 hmem
    exact (hsupplies entry hentry value).1 hfound ▸ hentry
  · intro hmem
    obtain ⟨front, rest, heq⟩ := List.append_of_mem hmem
    refine ⟨front.map fun entry => (entry.1, entry.2.toLiteral), (key, value.toLiteral),
      rest.map fun entry => (entry.1, entry.2.toLiteral), ?_, (hsupplies _ hmem value).2 rfl, ?_⟩
    · rw [flat, heq, List.map_append, List.map_cons]
    · intro later hlater other hother
      obtain ⟨entry, hentry, rfl⟩ := List.mem_map.1 hlater
      obtain rfl := (hsupplies entry (by simp [heq, hentry]) other).1 hother
      -- The key would stand twice among the entries.
      have hdistinct := proper.distinct_entries
      rw [heq, Bag.Distinct, Bag.names, List.map_append, List.map_cons] at hdistinct
      exact (List.nodup_cons.1 hdistinct.of_append_right).1 (List.mem_map.2 ⟨_, hentry, rfl⟩)

theorem Normal.isSome_bucket_iff {style : Style} (normal : style.Normal) (bucket : Bucket) :
    (style.bucket bucket).isSome = true ↔
      ∃ key ∈ bucket.keys.map Prod.fst, (style.get? key).isSome = true := by
  constructor
  · intro h
    obtain ⟨entries, hbucket⟩ := Option.isSome_iff_exists.1 h
    obtain ⟨⟨key, value⟩, rest, rfl⟩ := List.exists_cons_of_ne_nil fun hempty =>
      normal.filled bucket (hempty ▸ hbucket)
    have hkey : key ∈ bucket.keys.map Prod.fst :=
      (normal.proper.names_sublist hbucket).subset (by simp [Bag.names])
    refine ⟨key, hkey, ?_⟩
    rw [get?_of_mem hkey, hbucket]
    simp [Bag.find?]
  · rintro ⟨key, hkey, hsome⟩
    rw [get?_of_mem hkey] at hsome
    exact Option.isSome_of_isSome_bind hsome

theorem Normal.normalize_flat {style : Style} (normal : style.Normal) :
    normalize style.flat = style := by
  refine (normal_normalize style.flat).ext normal fun key => ?_
  cases hkey : Bucket.ofKey? key with
  | none => rw [get?_of_unknown _ hkey, get?_of_unknown _ hkey]
  | some bucket =>
    refine Option.ext fun value => ?_
    rw [get?_normalize_iff (Bucket.ofKey?_eq_some_iff.1 hkey), normal.proper.lastSupplied_flat_iff,
      normal.proper.mem_entries_iff]

/-- Normalization is exact: a key of no bucket has no value, a key of a bucket has the last scalar
that the bag supplies for it, a bucket is there if and only if one of its keys has a value, and
normalizing the flat bag of the result gives the result back. -/
theorem normalize_last_supplied (bag : Bag Literal) :
    (∀ key, (∀ bucket : Bucket, key ∉ bucket.keys.map Prod.fst) →
      (normalize bag).get? key = none) ∧
    (∀ bucket : Bucket, ∀ key ∈ bucket.keys.map Prod.fst, ∀ value,
      (normalize bag).get? key = some value ↔ LastSupplied bag key value) ∧
    (∀ bucket : Bucket, ((normalize bag).bucket bucket).isSome = true ↔
      ∃ key ∈ bucket.keys.map Prod.fst, ((normalize bag).get? key).isSome = true) ∧
    normalize (normalize bag).flat = normalize bag := by
  refine ⟨fun key hkey => get?_of_unknown _ (Bucket.ofKey?_eq_none_iff.2 hkey),
    fun bucket key hkey value => get?_normalize_iff hkey bag,
    (normal_normalize bag).isSome_bucket_iff, (normal_normalize bag).normalize_flat⟩

/-- An offset takes over the part before it and leaves the other one, for which it has no scalar. -/
theorem normalize_last_supplied_offset :
    let bag : Bag Literal := [("shadowOffsetX", .number 5), ("shadowOffsetY", .number 2),
      ("shadowOffset", .object [("width", .number 1), ("height", .array [])]), ("tilt", .number 3)]
    (∀ bucket : Bucket, "tilt" ∉ bucket.keys.map Prod.fst) ∧ (normalize bag).get? "tilt" = none ∧
      "shadowOffsetX" ∈ Bucket.shadows.keys.map Prod.fst ∧
      LastSupplied bag "shadowOffsetX" (.number 1) ∧
      "shadowOffsetY" ∈ Bucket.shadows.keys.map Prod.fst ∧
      LastSupplied bag "shadowOffsetY" (.number 2) := by
  intro bag
  obtain ⟨hunknown, hknown, -, -⟩ := normalize_last_supplied bag
  have htilt : ∀ bucket : Bucket, "tilt" ∉ bucket.keys.map Prod.fst := by
    intro bucket
    cases bucket <;> decide
  have hx : "shadowOffsetX" ∈ Bucket.shadows.keys.map Prod.fst := by decide
  have hy : "shadowOffsetY" ∈ Bucket.shadows.keys.map Prod.fst := by decide
  exact ⟨htilt, hunknown "tilt" htilt, hx, (hknown .shadows _ hx _).1 rfl, hy,
    (hknown .shadows _ hy _).1 rfl⟩

end Style

end Widgetry
