import CallChain.CommandLine.Run
import CallChain.Proofs.Occurrences
import CallChain.Proofs.Service.Answers
import CallChain.Proofs.Session.Effects

/-!
# Settings are checked, complete and stable

What a user gives is put over the defaults entry by entry.  `Admits` says which values a setting of
a name can have, and `Checks` that a check accepts exactly these.  Settings as data are a table with one
entry for each name, and to put an entry over settings is to put it into this table (`put_checks`), so
that the settings that come out are the given entries laid over the defaults (`merge_checks`).

Settings that came out of this are `Sound`: given again, they come out as they are (`Sound.merge`).
-/

namespace CallChain

/-! ## Tables laid over each other -/

namespace Assoc

variable {α : Type} {key : String} {value : α} {front back base : List (String × α)}

theorem put_of_not_mem (hkey : key ∉ front.map Prod.fst) :
    put key value front = front ++ [(key, value)] := by
  induction front with
  | nil => rfl
  | cons entry rest ih =>
      rw [List.map_cons, List.mem_cons, not_or] at hkey
      rw [put, if_neg (by simpa using Ne.symm hkey.1), ih hkey.2]
      rfl

/-- A key that is not in the first table is put into the second. -/
theorem put_append (hkey : key ∉ front.map Prod.fst) :
    put key value (front ++ back) = front ++ put key value back := by
  induction front with
  | nil => rfl
  | cons entry rest ih =>
      rw [List.map_cons, List.mem_cons, not_or] at hkey
      rw [List.cons_append, put, if_neg (by simpa using Ne.symm hkey.1), ih hkey.2]
      rfl

theorem overlay_append (base front back : List (String × α)) :
    overlay base (front ++ back) = overlay (overlay base front) back :=
  List.foldl_append

/-- New keys are added at the end. -/
theorem overlay_of_disjoint (hkeys : ((front ++ back).map Prod.fst).Nodup) :
    overlay front back = front ++ back := by
  induction back generalizing front with
  | nil => exact (List.append_nil front).symm
  | cons entry rest ih =>
      have hnew : entry.1 ∉ front.map Prod.fst := by
        rw [List.map_append, List.map_cons] at hkeys
        exact fun hmem => (List.nodup_append.mp hkeys).2.2 _ hmem _ List.mem_cons_self rfl
      have hassoc : front ++ [(entry.1, entry.2)] ++ rest = front ++ entry :: rest := by simp
      change overlay (put entry.1 entry.2 front) rest = _
      rw [put_of_not_mem hnew, ih (by rwa [hassoc]), hassoc]

/-- A table that is laid over one with the same keys replaces it. -/
theorem overlay_of_keys_eq (hkeys : base.map Prod.fst = front.map Prod.fst)
    (hnodup : (front.map Prod.fst).Nodup) : overlay base front = front := by
  -- the entries in front of the one that is replaced next are those of the result
  suffices h : ∀ (done base front : List (String × α)), base.map Prod.fst = front.map Prod.fst →
      ((done ++ front).map Prod.fst).Nodup → overlay (done ++ base) front = done ++ front from
    h [] base front hkeys hnodup
  intro done base front hkeys hnodup
  induction front generalizing done base with
  | nil =>
      rw [List.map_eq_nil_iff.mp hkeys]
      rfl
  | cons entry rest ih =>
      obtain ⟨old, others, rfl, hold, hothers⟩ := List.map_eq_cons_iff.mp hkeys
      have hnew : entry.1 ∉ done.map Prod.fst := by
        rw [List.map_append, List.map_cons] at hnodup
        exact fun hmem => (List.nodup_append.mp hnodup).2.2 _ hmem _ List.mem_cons_self rfl
      have hput : put entry.1 entry.2 (done ++ old :: others) = done ++ [entry] ++ others := by
        rw [put_append hnew, put, if_pos (by simpa using hold), List.append_assoc, hold]
        rfl
      have hassoc : done ++ [entry] ++ rest = done ++ entry :: rest := by simp
      change overlay (put entry.1 entry.2 (done ++ old :: others)) rest = _
      rw [hput, ih (done ++ [entry]) others hothers (by rwa [hassoc]), hassoc]

/-- So does one that has further keys behind these. -/
theorem overlay_of_keys_append (hkeys : base.map Prod.fst = front.map Prod.fst)
    (hnodup : ((front ++ back).map Prod.fst).Nodup) : overlay base (front ++ back) = front ++ back := by
  have hfront : (front.map Prod.fst).Nodup := by
    rw [List.map_append] at hnodup
    exact hnodup.of_append_left
  rw [overlay_append, overlay_of_keys_eq hkeys hfront, overlay_of_disjoint hnodup]

/-- Where no key is given twice, what is given counts, and then what was there. -/
theorem get?_overlay_of_nodup (key : String) (base : List (String × α))
    (hkeys : (front.map Prod.fst).Nodup) :
    get? key (overlay base front) = (get? key front).or (get? key base) := by
  rw [get?_overlay]
  congr 1
  cases hfound : front.reverse.find? fun entry => entry.1 == key with
  | some entry =>
      have hentry : entry ∈ front := List.mem_reverse.mp (List.mem_of_find?_eq_some hfound)
      have hkey : entry.1 = key := by simpa using List.find?_some hfound
      rw [← hkey, get?_of_mem hkeys hentry, Option.map_some]
  | none =>
      cases hget : get? key front with
      | none => rfl
      | some value =>
          have hentry := List.mem_reverse.mpr (mem_of_get? hget)
          exact absurd BEq.rfl (List.find?_eq_none.mp hfound _ hentry)

end Assoc

/-! ## Values that settings can have -/

namespace Settings

/-- The settings that are chosen from some texts. -/
def choiceKeys : List (String × List String) :=
  [("ambiguous_attribute_calls", ["unique", "all", "none"]),
    ("async_boundary_policy", ["sever_branch", "skip_call_site"]),
    ("target_without_body", ["skip", "abort"])]

/-- The settings that are lists of texts. -/
def listKeys : List String :=
  ["exclude_dirs", "thread_constructors", "executor_types", "executor_methods"]

/-- A value that a time limit can have: none, or a positive number.  What is no number at all
passes. -/
def IsTimeLimit : Value → Prop
  | .null => True
  | .int n => 0 < n
  | .float x => 0.0 < x ∨ x.isNaN = true
  | _ => False

/-- A setting of this name can have the value.  Other names can have any. -/
structure Admits (key : String) (value : Value) : Prop where
  choice : ∀ texts, (key, texts) ∈ choiceKeys → ∃ text ∈ texts, value = .text text
  list : key ∈ listKeys → ∃ texts, value = ofTexts texts
  timeout : key = "timeout" → IsTimeLimit value

theorem admits_iff {key : String} {value : Value} :
    Admits key value ↔
      (∀ texts, (key, texts) ∈ choiceKeys → ∃ text ∈ texts, value = .text text) ∧
      (key ∈ listKeys → ∃ texts, value = ofTexts texts) ∧ (key = "timeout" → IsTimeLimit value) :=
  ⟨fun ⟨hchoice, hlist, htimeout⟩ => ⟨hchoice, hlist, htimeout⟩,
    fun ⟨hchoice, hlist, htimeout⟩ => ⟨hchoice, hlist, htimeout⟩⟩

/-- A double that is not found to be at most zero is positive or no number. -/
theorem not_le_zero_iff (x : Float) : ¬ x ≤ 0.0 ↔ 0.0 < x ∨ x.isNaN = true := by
  have hzero : (0.0 : Float).toModel.unpack = .zero .positive := by rfl
  have hle : x ≤ 0.0 ↔ x.toModel.unpack.le (.zero .positive) = true := by
    rw [← hzero]
    exact decide_eq_true_iff
  have hlt : 0.0 < x ↔ Float.Model.UnpackedFloat.lt (.zero .positive) x.toModel.unpack = true := by
    rw [← hzero]
    exact decide_eq_true_iff
  have hnan : x.isNaN = x.toModel.unpack.isNaN := rfl
  rw [hle, hlt, hnan]
  -- zero is compared with each kind of double
  cases x.toModel.unpack with
  | infinity sign => cases sign <;> decide
  | notANumber => decide
  | zero sign => cases sign <;> decide
  | finite sign mantissa exponent hpos =>
      cases sign with
      | positive => exact iff_of_true nofun (Or.inl rfl)
      | negative => exact iff_of_false (fun h => h rfl) (by rintro (h | h) <;> cases h)

/-! ## Checks -/

/-- A check accepts what is admitted, gives something for it that is shown as it should be, and refuses
everything else. -/
structure Checks {α γ : Type} (admitted : Prop) (check : Except SettingsFault α) (shown : α → γ)
    (expected : γ) : Prop where
  accepts : admitted → ∃ a, check = .ok a ∧ shown a = expected
  refuses : ¬ admitted → ∃ fault, check = .error fault

namespace Checks

variable {α β γ δ : Type} {admitted other : Prop} {check : Except SettingsFault α} {shown : α → γ}
  {expected : γ}

theorem shown_eq (h : Checks admitted check shown expected) {a : α} (hok : check = .ok a) :
    admitted ∧ shown a = expected := by
  by_cases hadmitted : admitted
  · obtain ⟨b, hb, hshown⟩ := h.accepts hadmitted
    cases hok.symm.trans hb
    exact ⟨hadmitted, hshown⟩
  · obtain ⟨fault, herror⟩ := h.refuses hadmitted
    cases hok.symm.trans herror

theorem exists_error_iff (h : Checks admitted check shown expected) :
    (∃ fault, check = .error fault) ↔ ¬ admitted := by
  refine ⟨?_, h.refuses⟩
  rintro ⟨fault, herror⟩ hadmitted
  obtain ⟨a, hok, -⟩ := h.accepts hadmitted
  cases hok.symm.trans herror

/-- What passed a check is used for something that is shown elsewhere. -/
theorem map (h : Checks admitted check shown expected) (hiff : other ↔ admitted) {f : α → β}
    {shown' : β → δ} {expected' : δ} (hf : ∀ a, shown a = expected → shown' (f a) = expected') :
    Checks other (check.map f) shown' expected' where
  accepts hother := by
    obtain ⟨a, rfl, ha⟩ := h.accepts (hiff.mp hother)
    exact ⟨f a, rfl, hf a ha⟩
  refuses hother := by
    obtain ⟨fault, rfl⟩ := h.refuses (mt hiff.mpr hother)
    exact ⟨fault, rfl⟩

end Checks

/-- The texts of a list are taken as they are. -/
theorem textList?_eq_some_iff {value : Value} {list : List String} :
    textList? value = some list ↔ value = ofTexts list := by
  have hitem : ∀ (item : Value) (text : String), item.text? = some text ↔ item = .text text := by
    intro item text
    cases item <;> simp [Value.text?]
  have hitems : ∀ (items : List Value) (list : List String),
      items.mapM Value.text? = some list ↔ items = list.map Value.text := by
    intro items
    induction items with
    | nil => intro list; cases list <;> simp
    | cons item rest ih =>
        intro list
        cases list <;> simp [List.mapM_cons, hitem, ih, Option.bind_eq_some_iff]
  cases value <;> simp [textList?, ofTexts, hitems]

theorem texts_checks (key : String) (value : Value) :
    Checks (∃ list, value = ofTexts list) (texts key value) ofTexts value where
  accepts := by
    rintro ⟨list, hlist⟩
    exact ⟨list, by rw [texts, textList?_eq_some_iff.mpr hlist], hlist.symm⟩
  refuses hnot := by
    rw [texts]
    split
    · rename_i list hlist
      exact absurd ⟨list, textList?_eq_some_iff.mp hlist⟩ hnot
    · exact ⟨_, rfl⟩

theorem choose_checks {α : Type} (key : String) (text : α → String) (choices : List α) (value : Value) :
    Checks (∃ t ∈ choices.map text, value = .text t) (choose key text choices value)
      (fun c => .text (text c)) value where
  accepts := by
    rintro ⟨t, ht, rfl⟩
    obtain ⟨c, hc, rfl⟩ := List.mem_map.mp ht
    have hsome : (choices.find? fun d => text d == text c).isSome = true :=
      List.find?_isSome.mpr ⟨c, hc, BEq.rfl⟩
    obtain ⟨found, hfound⟩ := Option.isSome_iff_exists.mp hsome
    have htext : text found = text c := by simpa using List.find?_some hfound
    exact ⟨found, by rw [choose, choice?, hfound], congrArg Value.text htext⟩
  refuses hnot := by
    have hnone : choice? text choices value = none := by
      cases value with
      | text t =>
          refine List.find?_eq_none.mpr fun c hc htext => hnot ⟨t, ?_, rfl⟩
          exact eq_of_beq htext ▸ List.mem_map_of_mem hc
      | _ => rfl
    exact ⟨_, by rw [choose, hnone]⟩

theorem seconds_checks (value : Value) :
    Checks (IsTimeLimit value) (seconds value) (fun limit => (limit.map Seconds.toValue).getD .null)
      value where
  accepts hlimit := by
    cases value with
    | null => exact ⟨none, rfl, rfl⟩
    | int n =>
        have hpositive : 0 < n := hlimit
        exact ⟨some (.int n), by simp [seconds, positive?, hpositive], rfl⟩
    | float x =>
        have hpositive : ¬ x ≤ 0.0 := (not_le_zero_iff x).mpr hlimit
        exact ⟨some (.float x), by simp [seconds, positive?, hpositive], rfl⟩
    | _ => cases hlimit
  refuses hnot := by
    cases value with
    | null => exact absurd trivial hnot
    | int n =>
        have hsmall : ¬ 0 < n := hnot
        exact ⟨.invalidTimeout (.int n), by simp [seconds, positive?, hsmall]⟩
    | float x =>
        have hsmall : x ≤ 0.0 := not_not.mp fun h => hnot ((not_le_zero_iff x).mp h)
        exact ⟨.invalidTimeout (.float x), by simp [seconds, positive?, hsmall]⟩
    | _ => exact ⟨_, rfl⟩

/-! ## Entries put over settings -/

/-- To put an entry over settings is to put it into the table that they are as data. -/
theorem put_checks (s : Settings) (key : String) (value : Value) :
    Checks (Admits key value) (s.put key value) toEntries (Assoc.put key value s.toEntries) := by
  have hadmits : Admits key value ↔ _ := admits_iff
  unfold put
  split
  case h_5 | h_6 | h_7 =>
    refine (choose_checks _ _ _ value).map (hadmits.trans ?_) ?_
    · simp [choiceKeys, listKeys, Ambiguity.choices, Ambiguity.text, HandOffPolicy.choices,
        HandOffPolicy.text, BodilessTarget.choices, BodilessTarget.text]
    · rintro c rfl
      rfl
  case h_8 =>
    refine (seconds_checks value).map (hadmits.trans ?_) ?_
    · simp [choiceKeys, listKeys]
    · rintro limit rfl
      rfl
  case h_9 =>
    have hother : Admits key value := by
      rw [hadmits]
      simp_all [choiceKeys, listKeys]
    refine ⟨fun _ => ⟨_, rfl, ?_⟩, fun hnot => absurd hother hnot⟩
    rw [toEntries, toEntries, Assoc.put_append]
    simp_all
  all_goals
    refine (texts_checks _ value).map (hadmits.trans ?_) ?_
    · simp [choiceKeys, listKeys]
    · rintro list rfl
      rfl

/-- Entries that are admitted come to lie over what was there; one that is not is refused. -/
theorem putAll_checks (s : Settings) (entries : Entries) :
    Checks (∀ entry ∈ entries, Admits entry.1 entry.2) (s.putAll entries) toEntries
      (Assoc.overlay s.toEntries entries) := by
  induction entries generalizing s with
  | nil => exact ⟨fun _ => ⟨s, rfl, rfl⟩, fun hnot => absurd (by simp) hnot⟩
  | cons entry rest ih =>
      have hfirst := s.put_checks entry.1 entry.2
      rw [putAll]
      by_cases hentry : Admits entry.1 entry.2
      · obtain ⟨t, ht, htable⟩ := hfirst.accepts hentry
        rw [ht]
        have hrest := ih t
        rw [htable] at hrest
        refine ⟨fun hall => hrest.accepts (List.forall_mem_cons.mp hall).2, fun hnot => ?_⟩
        exact hrest.refuses fun hall => hnot (List.forall_mem_cons.mpr ⟨hentry, hall⟩)
      · obtain ⟨fault, hfault⟩ := hfirst.refuses hentry
        rw [hfault]
        exact ⟨fun hall => absurd (List.forall_mem_cons.mp hall).1 hentry, fun _ => ⟨fault, rfl⟩⟩

/-! ## Settings that a user gives -/

/-- What a user cannot give as settings. -/
inductive Unfit : Value → Prop
  /-- Something that counts as given, but is no object. -/
  | notObject {given : Value} (htruthy : given.isTruthy = true)
      (hobject : ∀ entries, given ≠ .object entries) : Unfit given
  /-- An object with an entry of a wrong value. -/
  | entry {entries : Entries} {key : String} {value : Value} (hentry : (key, value) ∈ entries)
      (hadmits : ¬ Admits key value) : Unfit (.object entries)

/-- The entries that a value gives. -/
def entriesOf : Value → Entries
  | .object entries => entries
  | _ => []

theorem field?_eq (key : String) (value : Value) :
    value.field? key = Assoc.get? key (entriesOf value) := by
  cases value <;> rfl

theorem not_unfit_object_iff {entries : Entries} :
    ¬ Unfit (.object entries) ↔ ∀ entry ∈ entries, Admits entry.1 entry.2 := by
  constructor
  · intro hfit entry hentry
    exact not_not.mp fun hadmits => hfit (.entry hentry hadmits)
  · rintro hall (⟨-, hobject⟩ | ⟨hentry, hadmits⟩)
    · exact hobject entries rfl
    · exact hadmits (hall _ hentry)

theorem merge_checks (value : Value) :
    Checks (¬ Unfit value) (merge value) toEntries
      (Assoc.overlay ({} : Settings).toEntries (entriesOf value)) := by
  unfold merge
  split
  · rename_i htruthy
    split
    · rename_i entries
      have hall := putAll_checks {} entries
      rwa [← not_unfit_object_iff] at hall
    · rename_i hobject
      exact ⟨fun hfit => absurd (.notObject htruthy hobject) hfit, fun _ => ⟨_, rfl⟩⟩
  · rename_i hfalsy
    have hnone : entriesOf value = [] := by
      cases value <;> simp_all [entriesOf, Value.isTruthy]
    rw [hnone]
    refine ⟨fun _ => ⟨{}, rfl, rfl⟩, fun hunfit => absurd ?_ hunfit⟩
    rintro (⟨htruthy, -⟩ | ⟨hentry, -⟩)
    · exact hfalsy htruthy
    · rw [entriesOf] at hnone
      rw [hnone] at hentry
      cases hentry

/-! ## Sound settings -/

/-- Every setting has a value that it can have, and each name is there once. -/
structure Sound (s : Settings) : Prop where
  admitted : ∀ entry ∈ s.toEntries, Admits entry.1 entry.2
  distinct : (s.toEntries.map Prod.fst).Nodup

theorem sound_default : Sound {} where
  admitted := by
    simp [toEntries, admits_iff, choiceKeys, listKeys, Ambiguity.text, HandOffPolicy.text,
      BodilessTarget.text, IsTimeLimit]
  distinct := by decide

theorem sound_of_merge {value : Value} {s : Settings} (hmerge : merge value = .ok s) : s.Sound := by
  obtain ⟨hfit, htable⟩ := (merge_checks value).shown_eq hmerge
  constructor
  · intro entry hentry
    rw [htable] at hentry
    rcases Assoc.exists_of_mem_foldl_put hentry with hdefault | ⟨own, hown, rfl⟩
    · exact sound_default.admitted entry hdefault
    · cases value with
      | object entries => exact not_unfit_object_iff.mp hfit own hown
      | _ => cases hown
  · rw [htable]
    exact Assoc.nodup_keys_foldl_put _ sound_default.distinct

theorem ofTexts_injective : Function.Injective ofTexts := by
  intro list other h
  have htexts := textList?_eq_some_iff.mpr h
  rw [textList?_eq_some_iff.mpr rfl] at htexts
  exact Option.some.inj htexts

theorem limit_injective :
    Function.Injective fun limit : Option Seconds => (limit.map Seconds.toValue).getD .null := by
  intro limit other h
  rcases limit with - | (n | x) <;> rcases other with - | (m | y) <;> simp_all [Seconds.toValue]

/-- Settings are known from what they are as data. -/
theorem toEntries_injective : Function.Injective toEntries := by
  have hambiguity : Function.Injective Ambiguity.text := by
    intro a b h
    cases a <;> cases b <;> simp_all [Ambiguity.text]
  have hpolicy : Function.Injective HandOffPolicy.text := by
    intro a b h
    cases a <;> cases b <;> simp_all [HandOffPolicy.text]
  have hbodiless : Function.Injective BodilessTarget.text := by
    intro a b h
    cases a <;> cases b <;> simp_all [BodilessTarget.text]
  intro s t h
  simp only [toEntries, List.cons_append, List.nil_append, List.cons.injEq, Prod.mk.injEq, true_and,
    Value.text.injEq, ofTexts_injective.eq_iff, hambiguity.eq_iff, hpolicy.eq_iff,
    hbodiless.eq_iff, limit_injective.eq_iff] at h
  cases s
  cases t
  simp_all

/-- Settings that are sound come out as they are when they are given again. -/
theorem Sound.merge {s : Settings} (hs : s.Sound) : Settings.merge s.toValue = .ok s := by
  obtain ⟨t, hok, htable⟩ := (merge_checks s.toValue).accepts (not_unfit_object_iff.mpr hs.admitted)
  have hsame : Assoc.overlay ({} : Settings).toEntries s.toEntries = s.toEntries :=
    Assoc.overlay_of_keys_append rfl hs.distinct
  rw [hok, toEntries_injective (htable.trans hsame)]

/-- Whatever a user gives: an index and a search that merge what they get once more, with settings that
were merged before, come to the same settings or the same fault. -/
theorem merge_again (value : Value) : (merge value >>= fun s => merge s.toValue) = merge value := by
  cases hmerge : merge value with
  | error fault => rfl
  | ok s => exact (sound_of_merge hmerge).merge

end Settings

/-! ## Settings on their way to a search -/

open Settings

theorem bind_eq_ok_iff {α β ε : Type} {result : Except ε α} {next : α → Except ε β} {b : β} :
    (result >>= next) = .ok b ↔ ∃ a, result = .ok a ∧ next a = .ok b := by
  cases result <;> simp [bind, Except.bind]

theorem SettingsFile.sound_of_load {yaml : YamlReader} {disk : Disk} {path : Option String}
    {s : Settings} (hload : SettingsFile.load yaml disk path = .ok s) : s.Sound := by
  unfold SettingsFile.load at hload
  split at hload
  · cases hload
    exact sound_default
  · obtain ⟨value, -, hmerge⟩ := bind_eq_ok_iff.mp hload
    exact sound_of_merge (Service.mapError_eq_ok_iff.mp hmerge)

theorem Index.settings_of_build {disk : Disk} {s : Settings} {path : String} {index : Index}
    {records : List Log.Record} (hbuild : Index.build disk s path = .ok (index, records)) :
    index.settings = s := by
  unfold Index.build at hbuild
  split at hbuild
  · cases hbuild
  · cases hbuild
    rfl

theorem Index.settings_of_fromDisk {disk : Disk} {s : Settings} {path : String} {index : Index}
    (hindex : Index.fromDisk disk s path = .ok index) : index.settings = s := by
  obtain ⟨⟨built, records⟩, hbuild, hfinished⟩ := bind_eq_ok_iff.mp hindex
  obtain ⟨-, rfl⟩ := Index.finished_eq_ok_iff.mp hfinished
  exact Index.settings_of_build hbuild

namespace Service

variable {yaml : YamlReader} {disk : Disk} {s : Settings} {index : Index}

theorem sound_of_settingsFor {config : Option Value} {path : Option String}
    (hsettings : settingsFor yaml disk config path = .ok s) : s.Sound := by
  cases config with
  | none => exact SettingsFile.sound_of_load hsettings
  | some value => exact sound_of_merge (mapError_eq_ok_iff.mp hsettings)

theorem settings_of_indexFor {subject : Subject} (hindex : indexFor disk s subject = .ok index) :
    index.settings = s := by
  unfold indexFor at hindex
  split at hindex
  · obtain ⟨-, rfl⟩ := Index.finished_eq_ok_iff.mp hindex
    rfl
  · cases hindex
  · split at hindex
    · exact Index.settings_of_fromDisk hindex
    · cases hindex

theorem sound_of_prepare {config : Option Value} {subject : Subject}
    (hprepare : prepare yaml disk config subject = .ok (s, index)) : s.Sound ∧ index.settings = s := by
  obtain ⟨settings, hsettings, hrest⟩ := bind_eq_ok_iff.mp hprepare
  obtain ⟨found, hindex, hpair⟩ := bind_eq_ok_iff.mp hrest
  cases hpair
  exact ⟨sound_of_settingsFor hsettings, settings_of_indexFor hindex⟩

end Service

namespace CommandLine

open CallChain.Action

theorem sound_of_loadSettings {path : Option String} {debug : Bool} {s : Settings}
    (hreturns : (loadSettings path debug).Returns s) : s.Sound := by
  obtain ⟨session, -, hrest⟩ := hreturns.of_bind
  obtain ⟨-, -, hresult⟩ := hrest.of_bind
  exact SettingsFile.sound_of_load hresult.of_ofExcept

theorem settings_of_buildIndex {target : Target} {s : Settings} {index : Index}
    (hreturns : (buildIndex target s).Returns index) : index.settings = s := by
  obtain ⟨built, hbuilt, hrest⟩ := hreturns.of_timed.of_bind
  obtain ⟨_, -, hrest⟩ := hrest.of_bind
  obtain ⟨-, -, hsame⟩ := hrest.of_bind
  obtain ⟨_, -, hbuilt⟩ := hbuilt.of_traced.of_bind
  obtain ⟨⟨first, records⟩, hbuild, hrest⟩ := hbuilt.of_bind
  obtain ⟨-, -, hfinished⟩ := hrest.of_bind
  obtain ⟨-, rfl⟩ := Index.finished_eq_ok_iff.mp hfinished.of_ofExcept
  rw [← hsame.of_pure]
  exact Index.settings_of_build hbuild.of_ofExcept

/-- Behind indexing only sound settings matter, and an index that was made with them. -/
theorem indexThen_congr (target : Target) {next other : Index → Settings → Action Nat}
    (hnext : ∀ index s, s.Sound → index.settings = s → next index s = other index s) :
    indexThen target next = indexThen target other := by
  have hrest : (loadSettings target.config target.debug >>= fun s =>
        buildIndex target s >>= fun index => next index s) =
      loadSettings target.config target.debug >>= fun s =>
        buildIndex target s >>= fun index => other index s := by
    refine bind_congr_of_returns fun s hs => bind_congr_of_returns fun index hindex => ?_
    exact hnext index s (sound_of_loadSettings hs) (settings_of_buildIndex hindex)
  unfold indexThen
  rw [hrest]

end CommandLine

/-! ## The settings of every search -/

/-- Settings that a user gives are refused exactly if they are unfit.  Otherwise every name has what the
user gave for it, or else its default, and nothing else is there; and given again, they come out as they
are.  So settings of a file, of a request or of a command line have only values that they can have when
an index or a search gets them. -/
theorem given_settings_are_checked (value : Value)
    (hkeys : ((entriesOf value).map Prod.fst).Nodup) :
    ((∃ fault, merge value = .error fault) ↔ Unfit value) ∧
    (∀ s, merge value = .ok s →
      (∀ key, s.toValue.field? key = (value.field? key).or (({} : Settings).toValue.field? key)) ∧
      merge s.toValue = .ok s ∧ s.Sound) ∧
    (∀ yaml disk path s, SettingsFile.load yaml disk path = .ok s → s.Sound) ∧
    (∀ yaml disk config subject s index, Service.prepare yaml disk config subject = .ok (s, index) →
      s.Sound ∧ index.settings = s) ∧
    (∀ target next other, (∀ index s, s.Sound → index.settings = s → next index s = other index s) →
      CommandLine.indexThen target next = CommandLine.indexThen target other) := by
  refine ⟨?_, fun s hmerge => ⟨fun key => ?_, ?_, ?_⟩, ?_, ?_, ?_⟩
  · rw [(merge_checks value).exists_error_iff, not_not]
  · have htable := ((merge_checks value).shown_eq hmerge).2
    have hget := Assoc.get?_overlay_of_nodup key ({} : Settings).toEntries hkeys
    rw [← htable, ← field?_eq] at hget
    exact hget
  · exact (sound_of_merge hmerge).merge
  · exact sound_of_merge hmerge
  · exact fun yaml disk path s hload => SettingsFile.sound_of_load hload
  · exact fun yaml disk config subject s index hprepare => Service.sound_of_prepare hprepare
  · exact fun target next other hnext => CommandLine.indexThen_congr target hnext

/-- Settings with a time limit and an entry of another name. -/
def sampleSettings : Value := .object [("timeout", .int 5), ("note", .bool true)]

theorem given_settings_are_checked_sample :
    ((entriesOf sampleSettings).map Prod.fst).Nodup ∧ ∃ s, merge sampleSettings = .ok s ∧
      s.toValue.field? "timeout" = some (.int 5) ∧ s.toValue.field? "note" = some (.bool true) ∧
      s.toValue.field? "target_without_body" = some (.text "skip") ∧ merge s.toValue = .ok s := by
  have hkeys : ((entriesOf sampleSettings).map Prod.fst).Nodup := by decide
  obtain ⟨-, hmerged, -⟩ := given_settings_are_checked sampleSettings hkeys
  obtain ⟨hfields, hagain, -⟩ := hmerged _ rfl
  exact ⟨hkeys, _, rfl, hfields "timeout", hfields "note", hfields "target_without_body", hagain⟩

end CallChain
