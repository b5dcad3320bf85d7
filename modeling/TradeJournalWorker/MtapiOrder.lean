import TradeJournalWorker.ExceptAgreement
import TradeJournalWorker.MtapiCandidates

namespace TradeJournalWorker.MtapiSearch

open ExceptAgreement FirstOccurrences Lab StableSorting

/-- The same array with its entries in another order, each of them rearranged by `R`. -/
def Shuffled (R : JsonValue → JsonValue → Prop) (a b : JsonValue) : Prop :=
  a = b ∨ ∃ xs zs ys, a = .arr xs ∧ b = .arr ys ∧ xs.Perm zs ∧ List.Forall₂ R zs ys

/-- One member of an object with its value rearranged by `R` when it is the given field. -/
def SameMember (field : String) (R : JsonValue → JsonValue → Prop)
    (p q : String × JsonValue) : Prop :=
  p.1 = q.1 ∧ (if p.1 = field then R p.2 q.2 else p.2 = q.2)

def InField (field : String) (R : JsonValue → JsonValue → Prop) (a b : JsonValue) : Prop :=
  a = b ∨ ∃ xs ys, a = .obj xs ∧ b = .obj ys ∧ List.Forall₂ (SameMember field R) xs ys

def RowShuffled : JsonValue → JsonValue → Prop := InField "access" (Shuffled Eq)

def CompanyShuffled : JsonValue → JsonValue → Prop := InField "results" (Shuffled RowShuffled)

/-- The companies, the rows of each and the access lists of these in another order. -/
def DocumentShuffled : JsonValue → JsonValue → Prop := Shuffled CompanyShuffled

section Members

variable {field : String} {R : JsonValue → JsonValue → Prop} {xs ys : List (String × JsonValue)}

theorem sameMember_keys (h : List.Forall₂ (SameMember field R) xs ys) :
    xs.map Prod.fst = ys.map Prod.fst := by
  induction h with
  | nil => rfl
  | cons hmember hrest ih => rw [List.map_cons, List.map_cons, hmember.1, ih]

theorem hasKeys_eq (h : List.Forall₂ (SameMember field R) xs ys) (keys : List String) :
    hasKeys xs keys = hasKeys ys keys := by
  have hkeys := sameMember_keys h
  have hall : ∀ members : List (String × JsonValue),
      (members.all fun member => keys.contains member.1) =
        (members.map Prod.fst).all fun key => keys.contains key := by
    intro members
    rw [List.all_map]
    rfl
  unfold hasKeys
  rw [hall, hall, hkeys]

theorem get_other (h : List.Forall₂ (SameMember field R) xs ys) {key : String} (hkey : key ≠ field) :
    JsonValue.get xs key = JsonValue.get ys key := by
  unfold JsonValue.get
  congr 1
  induction h with
  | nil => rfl
  | @cons p q xs ys hmember hrest ih =>
    obtain ⟨name, value⟩ := p
    obtain ⟨name', value'⟩ := q
    obtain ⟨rfl, hvalue⟩ := hmember
    by_cases hname : key = name
    · subst hname
      simp only [if_neg hkey] at hvalue
      simp [hvalue]
    · have hbeq : (key == name) = false := by simpa using hname
      rw [List.lookup_cons, List.lookup_cons, hbeq]
      exact ih

theorem get_field (h : List.Forall₂ (SameMember field R) xs ys) (hrefl : ∀ value, R value value) :
    R (JsonValue.get xs field) (JsonValue.get ys field) := by
  unfold JsonValue.get
  induction h with
  | nil => exact hrefl _
  | @cons p q xs ys hmember hrest ih =>
    obtain ⟨name, value⟩ := p
    obtain ⟨name', value'⟩ := q
    obtain ⟨rfl, hvalue⟩ := hmember
    by_cases hname : field = name
    · subst hname
      simp only [if_pos] at hvalue
      simpa using hvalue
    · have hbeq : (field == name) = false := by simpa using hname
      rw [List.lookup_cons, List.lookup_cons, hbeq]
      exact ih

/-- The value of a member replaced by another one that `R` allows. -/
theorem replace_field {value value' : JsonValue} (hvalue : R value value')
    (hrefl : ∀ value, R value value) (h : xs.lookup field = some value) :
    ∃ ys, List.Forall₂ (SameMember field R) xs ys ∧ ys.lookup field = some value' := by
  have hsame : ∀ p, SameMember field R p p := fun p => ⟨rfl, by split <;> simp [hrefl]⟩
  induction xs with
  | nil => cases h
  | cons p rest ih =>
    obtain ⟨name, found⟩ := p
    by_cases hname : field = name
    · subst hname
      have hfound : found = value := by simpa using h
      subst hfound
      have hall : List.Forall₂ (SameMember field R) rest rest :=
        List.forall₂_same.mpr fun p _ => hsame p
      exact ⟨(field, value') :: rest, List.Forall₂.cons ⟨rfl, by simpa using hvalue⟩ hall, by simp⟩
    · have hbeq : (field == name) = false := by simpa using hname
      rw [List.lookup_cons, hbeq] at h
      obtain ⟨ys, hys, hlookup⟩ := ih h
      refine ⟨(name, found) :: ys, List.Forall₂.cons (hsame _) hys, ?_⟩
      rw [List.lookup_cons, hbeq]
      exact hlookup

theorem shuffled_refl (R : JsonValue → JsonValue → Prop) (value : JsonValue) :
    Shuffled R value value := Or.inl rfl

theorem inField_refl (value : JsonValue) : InField field R value value := Or.inl rfl

end Members

/-- The same endpoints in another order, and rows in both or in neither. -/
structure RowsRelated (as bs : List ExactRow) : Prop where
  endpoints : (as.flatMap ExactRow.endpoints).Perm (bs.flatMap ExactRow.endpoints)
  empty : as = [] ↔ bs = []

section Related

variable {as bs cs ds : List ExactRow}

theorem RowsRelated.refl (as : List ExactRow) : RowsRelated as as := ⟨List.Perm.refl _, Iff.rfl⟩

theorem RowsRelated.trans (h : RowsRelated as bs) (hnext : RowsRelated bs cs) :
    RowsRelated as cs :=
  ⟨h.endpoints.trans hnext.endpoints, h.empty.trans hnext.empty⟩

theorem RowsRelated.append (h : RowsRelated as bs) (hnext : RowsRelated cs ds) :
    RowsRelated (as ++ cs) (bs ++ ds) := by
  refine ⟨?_, ?_⟩
  · rw [List.flatMap_append, List.flatMap_append]
    exact h.endpoints.append hnext.endpoints
  · rw [List.append_eq_nil_iff, List.append_eq_nil_iff, h.empty, hnext.empty]

theorem RowsRelated.of_perm (h : as.Perm bs) : RowsRelated as bs := by
  refine ⟨h.flatMap_right _, ?_⟩
  constructor
  · rintro rfl
    exact h.symm.eq_nil
  · rintro rfl
    exact h.eq_nil

theorem RowsRelated.flatten {xss yss : List (List ExactRow)}
    (h : List.Forall₂ RowsRelated xss yss) : RowsRelated xss.flatten yss.flatten := by
  induction h with
  | nil => exact .refl _
  | cons hrows hrest ih =>
    rw [List.flatten_cons, List.flatten_cons]
    exact hrows.append ih

/-- Lists of rows in another order, each of them related to its own image. -/
theorem RowsRelated.shuffled {α : Type} {f : α → List ExactRow} {xs zs ys : List α}
    (hperm : xs.Perm zs) (h : List.Forall₂ (fun x y => RowsRelated (f x) (f y)) zs ys) :
    RowsRelated (xs.flatMap f) (ys.flatMap f) := by
  refine (RowsRelated.of_perm (hperm.flatMap_right f)).trans ?_
  have hmap : List.Forall₂ RowsRelated (zs.map f) (ys.map f) := by
    rw [List.forall₂_map_left_iff, List.forall₂_map_right_iff]
    exact h
  rw [List.flatMap_def, List.flatMap_def]
  exact RowsRelated.flatten hmap

end Related

section Parsing

variable {env : SearchEnv} {expectedServerName companyName : String}

/-- A list of an array that is read entry by entry, in another order. -/
theorem agree_shuffled {β : Type} {R : JsonValue → JsonValue → Prop} {S : β → β → Prop}
    {f : JsonValue → Except String β} {a b : JsonValue} (h : Shuffled R a b)
    (hrefl : ∀ value, S value value) (hstep : ∀ x y, R x y → Agree S (f x) (f y)) :
    Agree (fun as bs => ∃ cs, as.Perm cs ∧ List.Forall₂ S cs bs)
      (asArray a >>= fun xs => xs.mapM f) (asArray b >>= fun xs => xs.mapM f) := by
  rcases h with rfl | ⟨xs, zs, ys, rfl, rfl, hperm, hrelated⟩
  · refine Agree.same (fun as => ⟨as, List.Perm.refl _, ?_⟩) _
    exact List.forall₂_same.mpr fun x _ => hrefl x
  · exact (agree_mapM_perm hperm).trans (agree_mapM hrelated hstep)

theorem agree_accessTexts {a b : JsonValue} (h : Shuffled Eq a b) :
    Agree List.Perm (accessTexts a) (accessTexts b) := by
  refine (agree_shuffled (S := Eq) h (fun _ => rfl) ?_).weaken ?_
  · rintro x y rfl
    exact Agree.same (fun _ => rfl) _
  · rintro as bs ⟨cs, hperm, hsame⟩
    rw [List.forall₂_eq_eq_eq] at hsame
    rw [← hsame]
    exact hperm

theorem exactRow_related {serverName : String} {access access' : List String}
    (h : access.Perm access') :
    RowsRelated (exactRow env expectedServerName companyName serverName access).toList
      (exactRow env expectedServerName companyName serverName access').toList := by
  unfold exactRow
  split
  next =>
    refine ⟨?_, by simp⟩
    simpa [rowEndpoints] using h.filterMap _
  next => exact .refl _

theorem agree_parseRow {a b : JsonValue} (h : RowShuffled a b) :
    Agree (fun r s => RowsRelated r.toList s.toList)
      (parseRow env expectedServerName companyName a)
      (parseRow env expectedServerName companyName b) := by
  rcases h with rfl | ⟨xs, ys, rfl, rfl, hmembers⟩
  · exact Agree.same (fun r => .refl _) _
  · unfold parseRow
    simp only
    rw [hasKeys_eq hmembers, get_other hmembers (show "name" ≠ "access" by decide)]
    split
    next => exact .error _ _
    next =>
      refine (Agree.same (S := Eq) (fun _ => rfl) _).bind ?_
      rintro serverName - rfl
      have haccess := get_field hmembers (shuffled_refl Eq)
      refine (agree_accessTexts haccess).bind fun access access' hperm => ?_
      exact .ok (exactRow_related hperm)

theorem filterMap_id_eq (rows : List (Option ExactRow)) :
    rows.filterMap id = rows.flatMap Option.toList := by
  induction rows with
  | nil => rfl
  | cons row rest ih =>
    cases row with
    | none => simpa using ih
    | some row => simpa using ih

theorem agree_parseCompany {a b : JsonValue} (h : CompanyShuffled a b) :
    Agree RowsRelated (parseCompany env expectedServerName a)
      (parseCompany env expectedServerName b) := by
  rcases h with rfl | ⟨xs, ys, rfl, rfl, hmembers⟩
  · exact Agree.same (fun r => .refl _) _
  · unfold parseCompany
    simp only
    rw [hasKeys_eq hmembers, get_other hmembers (show "companyName" ≠ "results" by decide)]
    split
    next => exact .error _ _
    next =>
      refine (Agree.same (S := Eq) (fun _ => rfl) _).bind ?_
      rintro name - rfl
      have hresults := get_field hmembers (shuffled_refl RowShuffled)
      have hrows := agree_shuffled (f := parseRow env expectedServerName name) hresults
        (fun r => RowsRelated.refl r.toList) fun x y hxy => agree_parseRow hxy
      rw [← bind_assoc, ← bind_assoc]
      refine hrows.bind ?_
      rintro as bs ⟨cs, hperm, hrelated⟩
      refine .ok ?_
      rw [filterMap_id_eq, filterMap_id_eq]
      exact RowsRelated.shuffled hperm hrelated

theorem agree_exactRows {a b : JsonValue} (h : DocumentShuffled a b) :
    Agree RowsRelated (exactRows env expectedServerName a)
      (exactRows env expectedServerName b) := by
  have hrows := agree_shuffled (f := parseCompany env expectedServerName) h RowsRelated.refl
    fun x y hxy => agree_parseCompany hxy
  unfold exactRows
  rw [← bind_assoc, ← bind_assoc]
  refine hrows.bind ?_
  rintro as bs ⟨cs, hperm, hrelated⟩
  refine .ok ?_
  have hflat : ∀ xss : List (List ExactRow), xss.flatten = xss.flatMap id := fun xss => by
    rw [List.flatMap_def, List.map_id]
  rw [hflat, hflat]
  exact RowsRelated.shuffled hperm hrelated

end Parsing

end TradeJournalWorker.MtapiSearch
