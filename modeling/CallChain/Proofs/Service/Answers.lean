import CallChain.Proofs.Detector.Report
import CallChain.Proofs.Files.Places
import CallChain.Service.Handler

/-!
# Which requests are answered

A request first obtains its settings and its index.  Whatever goes wrong there becomes a response
with one error, except for one thing: a settings file in YAML that can be read, but at which the reader
of YAML breaks off.  Behind that a search is answered unless it cannot keep the time limit of the
settings (`LimitBeyondClock`).  `answered_iff` says that these are the only requests that are not
answered.

The reader of YAML may be any.  What is assumed about it is that it refuses malformed texts, whichever
they are (`RefusesMalformed`); so a request with a malformed settings file is not answered.
-/

namespace CallChain

/-! ## Readers of YAML -/

namespace YamlReader

/-- The assumption on a reader of YAML: it refuses each malformed text for what it is. -/
def RefusesMalformed (yaml : YamlReader) (malformed : List Char → Prop) : Prop :=
  ∀ document, malformed document → ∃ message, yaml document = .error (.malformed message)

/-- The reader gives no data, and this not because of a value that cannot be made. -/
def BreaksOff (yaml : YamlReader) (document : List Char) : Prop :=
  ∃ fault, yaml document = .error fault ∧ ∀ message, fault ≠ .value message

end YamlReader

namespace Service

variable {yaml : YamlReader} {disk : Disk} {config : Option Value} {subject : Subject}
  {failure : Failure}

/-! ## Settings and index -/

/-- The settings file of a subject is one in YAML by its name, and its content is a text that the
predicate holds of. -/
def HoldsYaml (disk : Disk) (subject : Subject) (document : List Char → Prop) : Prop :=
  ∃ path content characters, subject.configPath = some path ∧ path ≠ "" ∧
    SettingsFile.isYaml path = true ∧ disk.read path = .ok content ∧
    Utf8.strict content = .ok characters ∧ document (Text.unifyLineEnds characters)

theorem HoldsYaml.imp {document other : List Char → Prop} (h : HoldsYaml disk subject document)
    (himp : ∀ text, document text → other text) : HoldsYaml disk subject other := by
  obtain ⟨path, content, characters, hpath, hne, hyaml, hread, hstrict, htext⟩ := h
  exact ⟨path, content, characters, hpath, hne, hyaml, hread, hstrict, himp _ htext⟩

/-- A reader that refuses malformed texts breaks off at them. -/
theorem HoldsYaml.breaksOff {malformed : List Char → Prop} (hyaml : yaml.RefusesMalformed malformed)
    (h : HoldsYaml disk subject malformed) : HoldsYaml disk subject yaml.BreaksOff := by
  refine h.imp fun document hdocument => ?_
  obtain ⟨message, hmessage⟩ := hyaml document hdocument
  exact ⟨_, hmessage, fun _ => nofun⟩

theorem mapError_eq_error_iff {α ε δ : Type} {result : Except ε α} {f : ε → δ} {e : δ} :
    result.mapError f = .error e ↔ ∃ fault, result = .error fault ∧ f fault = e := by
  cases result <;> simp [Except.mapError]

theorem mapError_eq_ok_iff {α ε δ : Type} {result : Except ε α} {f : ε → δ} {a : α} :
    result.mapError f = .ok a ↔ result = .ok a := by
  cases result <;> simp [Except.mapError]

theorem bind_eq_error_iff {α β ε : Type} {result : Except ε α} {next : α → Except ε β} {e : ε} :
    (result >>= next) = .error e ↔
      result = .error e ∨ ∃ a, result = .ok a ∧ next a = .error e := by
  cases result <;> simp [bind, Except.bind]

/-- What a settings file in JSON cannot be read for is answered. -/
theorem isReported_jsonFailure (document : List Char) (fault : Json.Fault) :
    (SettingsFile.jsonFailure document fault).isReported = true := by
  rw [SettingsFile.jsonFailure]
  split <;> rfl

/-- Of the faults of a reader of YAML those are answered that concern a value. -/
theorem isReported_ofYaml_iff {fault : YamlFault} :
    (Failure.ofYaml fault).isReported = true ↔ ∃ message, fault = .value message := by
  cases fault <;> simp [Failure.ofYaml, Failure.isReported]

/-- Only a reader of YAML that breaks off keeps the data of a settings file from being read without
an answer. -/
theorem data_eq_error {path : String} (hdata : SettingsFile.data yaml disk path = .error failure) :
    failure.isReported = true ∨ ∃ content characters, SettingsFile.isYaml path = true ∧
      disk.read path = .ok content ∧ Utf8.strict content = .ok characters ∧
      yaml.BreaksOff (Text.unifyLineEnds characters) := by
  rw [SettingsFile.data] at hdata
  split at hdata
  · cases hdata
    exact Or.inl rfl
  rcases bind_eq_error_iff.mp hdata with hread | ⟨content, hread, hdata⟩
  · obtain ⟨fault, -, rfl⟩ := mapError_eq_error_iff.mp hread
    exact Or.inl rfl
  rcases bind_eq_error_iff.mp hdata with hstrict | ⟨characters, hstrict, hparse⟩
  · obtain ⟨fault, -, rfl⟩ := mapError_eq_error_iff.mp hstrict
    exact Or.inl rfl
  rw [SettingsFile.parse] at hparse
  split at hparse
  · rename_i hyaml
    obtain ⟨fault, hfault, rfl⟩ := mapError_eq_error_iff.mp hparse
    rw [or_iff_not_imp_left, isReported_ofYaml_iff]
    intro hvalue
    exact ⟨content, characters, hyaml, mapError_eq_ok_iff.mp hread, mapError_eq_ok_iff.mp hstrict,
      fault, hfault, not_exists.mp hvalue⟩
  · obtain ⟨fault, -, rfl⟩ := mapError_eq_error_iff.mp hparse
    exact Or.inl (isReported_jsonFailure _ fault)

theorem load_of_path {path : String} (hpath : path ≠ "") :
    SettingsFile.load yaml disk (some path) =
      SettingsFile.data yaml disk path >>= fun given => (Settings.merge given).mapError .settings := by
  have hfilter : (some path).filter (· != "") = some path := by simpa using hpath
  rw [SettingsFile.load, hfilter]

/-- What keeps an index from being obtained is answered. -/
theorem isReported_of_indexFor {settings : Settings}
    (hindex : indexFor disk settings subject = .error failure) : failure.isReported = true := by
  have hfinished : ∀ {index : Index}, index.finished = .error failure → failure.isReported = true := by
    intro index hfinished
    obtain ⟨fault, -, rfl⟩ := Index.finished_eq_error_iff.mp hfinished
    rfl
  rw [indexFor] at hindex
  split at hindex
  · exact hfinished hindex
  · cases hindex
    rfl
  · split at hindex
    · rename_i hcontains
      rw [Index.fromDisk, Index.build, hcontains] at hindex
      exact hfinished hindex
    · cases hindex
      rfl

/-- A failure to obtain settings or index is answered, or comes from a reader that breaks off. -/
theorem prepare_eq_error (hprepare : prepare yaml disk config subject = .error failure) :
    failure.isReported = true ∨ config = none ∧ HoldsYaml disk subject yaml.BreaksOff := by
  rcases bind_eq_error_iff.mp hprepare with hsettings | ⟨settings, -, hindex⟩
  · cases config with
    | some given =>
        obtain ⟨fault, -, rfl⟩ := mapError_eq_error_iff.mp hsettings
        exact Or.inl rfl
    | none =>
        rw [settingsFor] at hsettings
        cases hconfig : subject.configPath.filter (· != "") with
        | none =>
            rw [SettingsFile.load, hconfig] at hsettings
            cases hsettings
        | some path =>
            obtain ⟨hpath, hne⟩ : subject.configPath = some path ∧ path ≠ "" := by
              simpa using hconfig
            rw [hpath, load_of_path hne] at hsettings
            rcases bind_eq_error_iff.mp hsettings with hdata | ⟨given, -, hmerge⟩
            · rcases data_eq_error hdata with hreported | ⟨content, characters, hyaml⟩
              · exact Or.inl hreported
              · exact Or.inr ⟨rfl, path, content, characters, hpath, hne, hyaml⟩
            · obtain ⟨fault, -, rfl⟩ := mapError_eq_error_iff.mp hmerge
              exact Or.inl rfl
  · rcases bind_eq_error_iff.mp hindex with hindex | ⟨index, -, hpure⟩
    · exact Or.inl (isReported_of_indexFor hindex)
    · cases hpure

/-- A settings file at which the reader breaks off is not answered. -/
theorem prepare_of_breaksOff (hyaml : HoldsYaml disk subject yaml.BreaksOff) :
    ∃ fault, prepare yaml disk none subject = .error (.ofYaml fault) ∧
      (Failure.ofYaml fault).isReported = false := by
  obtain ⟨path, content, characters, hpath, hne, hyaml, hread, hstrict, fault, hfault, hvalue⟩ := hyaml
  have hreported : (Failure.ofYaml fault).isReported = false :=
    Bool.eq_false_iff.mpr (mt isReported_ofYaml_iff.mp (not_exists.mpr hvalue))
  have hcontains : disk.contains path = true := Disk.contains_iff.mpr ⟨_, Disk.find_of_read hread⟩
  have hparse : SettingsFile.parse yaml path (Text.unifyLineEnds characters) =
      .error (.ofYaml fault) := by
    rw [SettingsFile.parse, if_pos hyaml, hfault]
    rfl
  have hdata : SettingsFile.data yaml disk path = .error (.ofYaml fault) := by
    rw [SettingsFile.data, hcontains]
    refine bind_eq_error_iff.mpr (Or.inr ⟨content, mapError_eq_ok_iff.mpr hread, ?_⟩)
    exact bind_eq_error_iff.mpr (Or.inr ⟨characters, mapError_eq_ok_iff.mpr hstrict, hparse⟩)
  refine ⟨_, bind_eq_error_iff.mpr (Or.inl ?_), hreported⟩
  rw [settingsFor, hpath, load_of_path hne]
  exact bind_eq_error_iff.mpr (Or.inl hdata)

/-! ## Searches -/

/-- The search that a request asks for is made, without a limit of its own, under settings whose
limit is no double. -/
def LimitBeyondClock (yaml : YamlReader) (disk : Disk) (request : FindRequest) : Prop :=
  ∃ settings index start name,
    prepare yaml disk request.config request.subject = .ok (settings, index) ∧
    index.findRoutines request.start = [start] ∧ start.hasBody = true ∧
    request.method = some name ∧ Text.isAllBlank name = false ∧
    index.findRoutines (Text.trim name) ≠ [] ∧
    ¬ Detector.Aborts settings start (index.findRoutines (Text.trim name)) ∧
    (∀ seconds ∈ request.timeout, (seconds == 0.0) = true) ∧
    ∃ n, settings.timeout = some (.int n) ∧ Seconds.overflow ≤ n.natAbs

/-- The run with which the search of a request begins. -/
def runFor (request : FindRequest) (clock : Clock) : Run :=
  match request.timeout.filter fun x => !(x == 0.0) with
  | some seconds =>
    let (token, clock) := CancelToken.create (some (.float seconds)) clock
    { token, clock }
  | none => { clock }

theorem searchFor_eq (request : FindRequest) (settings : Settings) (index : Index) (start : Routine)
    (clock : Clock) : searchFor request settings index start clock =
      Detector.detect index settings (some start) request.method (runFor request clock) := rfl

/-- A request brings a token exactly if it has a time limit other than zero. -/
theorem token_runFor_eq_none_iff {request : FindRequest} {clock : Clock} :
    (runFor request clock).token = none ↔ ∀ seconds ∈ request.timeout, (seconds == 0.0) = true := by
  unfold runFor
  cases hlimit : request.timeout.filter fun x => !(x == 0.0) with
  | none =>
      refine iff_of_true rfl fun seconds hseconds => ?_
      simpa using Option.filter_eq_none_iff.mp hlimit seconds hseconds
  | some seconds =>
      obtain ⟨hseconds, hlong⟩ := Option.filter_eq_some_iff.mp hlimit
      have hzero : (seconds == 0.0) = false := by simpa using hlong
      refine iff_of_false ?_ fun hall => ?_
      · simp [CancelToken.create, Seconds.isZero, Seconds.toFloat?, hzero]
      · rw [hall seconds hseconds] at hzero
        cases hzero

/-- A detection reports unless it comes to the searches with a time limit beyond the clock. -/
theorem exists_report_iff (index : Index) (settings : Settings) (start : Routine)
    (name : Option String) (run : Run) :
    (∃ report, (Detector.detect index settings (some start) name run).report = .ok report) ↔
      ¬ ∃ n, start.hasBody = true ∧ name = some n ∧ Text.isAllBlank n = false ∧
        index.findRoutines (Text.trim n) ≠ [] ∧
        ¬ Detector.Aborts settings start (index.findRoutines (Text.trim n)) ∧
        Detector.LimitTooLarge settings run := by
  constructor
  · rintro ⟨report, hreport⟩ ⟨n, hbody, hname, hblank, hsome, haborts, hlimit⟩
    rw [Detector.detect_of_limitTooLarge ⟨rfl, hbody, hname, hblank⟩ hsome haborts hlimit] at hreport
    cases hreport
  · intro hkept
    cases Detector.detect_reported index settings (some start) name run with
    | limitTooLarge hgiven hsome haborts hlimit =>
        obtain ⟨hstart, hbody, hname, hblank⟩ := hgiven
        cases hstart
        exact absurd ⟨_, hbody, hname, hblank, hsome, haborts, hlimit⟩ hkept
    | emptyStart _ hrefused | noTargetName _ _ hrefused | targetNotFound _ _ hrefused
    | targetHasNoBody _ _ _ hrefused =>
        obtain ⟨report, hreport, _⟩ := hrefused
        exact ⟨report, hreport⟩
    | canceled _ _ _ _ _ hdone | completed _ _ _ _ _ hdone =>
        obtain ⟨report, hreport, _⟩ := hdone
        exact ⟨report, hreport⟩

/-! ## Answers -/

section Answers

variable {request : FindRequest} {listing : ListRequest} {clock : Clock}

theorem findCallPaths_of_error
    (hprepare : prepare yaml disk request.config request.subject = .error failure) :
    (findCallPaths yaml disk request clock).1 =
      if failure.isReported then .ok { success := false, errors := [failure.message] }
      else .error failure := by
  rw [findCallPaths, hprepare]

theorem listRoutines_of_error
    (hprepare : prepare yaml disk none listing.subject = .error failure) :
    listRoutines yaml disk listing =
      if failure.isReported then .ok { success := false, errors := [failure.message] }
      else .error failure := by
  rw [listRoutines, hprepare]

/-- A failure is answered unless it comes from a reader that breaks off. -/
theorem isReported_iff (hprepare : prepare yaml disk config subject = .error failure) :
    failure.isReported = true ↔ ¬ (config = none ∧ HoldsYaml disk subject yaml.BreaksOff) := by
  constructor
  · rintro hreported ⟨rfl, hyaml⟩
    obtain ⟨fault, hfault, hunreported⟩ := prepare_of_breaksOff hyaml
    rw [hprepare] at hfault
    cases hfault
    rw [hreported] at hunreported
    cases hunreported
  · intro hfine
    exact (prepare_eq_error hprepare).resolve_right hfine

/-- With settings and an index a request is answered unless its search has a limit beyond the
clock. -/
theorem findCallPaths_answers_iff {settings : Settings} {index : Index}
    (hprepare : prepare yaml disk request.config request.subject = .ok (settings, index)) :
    (∃ response, (findCallPaths yaml disk request clock).1 = .ok response) ↔
      ¬ LimitBeyondClock yaml disk request := by
  rw [findCallPaths, hprepare]
  simp only
  split
  · rename_i start hstart
    have hmap : (∃ response, ((searchFor request settings index start clock).report.map
        (FindResponse.ofReport index)) = .ok response) ↔
        ∃ report, (searchFor request settings index start clock).report = .ok report := by
      cases (searchFor request settings index start clock).report <;> simp [Except.map]
    rw [hmap, searchFor_eq, exists_report_iff]
    refine not_congr ⟨?_, ?_⟩
    · rintro ⟨name, hbody, hname, hblank, hsome, haborts, htoken, hlimit⟩
      exact ⟨settings, index, start, name, hprepare, hstart, hbody, hname, hblank, hsome, haborts,
        token_runFor_eq_none_iff.mp htoken, hlimit⟩
    · rintro ⟨settings', index', start', name, hprepare', hstart', hbody, hname, hblank, hsome, haborts,
        htimeout, hlimit⟩
      rw [hprepare] at hprepare'
      cases hprepare'
      rw [hstart] at hstart'
      cases hstart'
      exact ⟨name, hbody, hname, hblank, hsome, haborts, token_runFor_eq_none_iff.mpr htimeout, hlimit⟩
  · rename_i hstarts
    refine iff_of_true ⟨_, rfl⟩ ?_
    rintro ⟨settings', index', start, name, hprepare', hstart, -⟩
    rw [hprepare] at hprepare'
    cases hprepare'
    exact hstarts start hstart

end Answers

theorem exists_ite_ok_iff {α : Type} {reported : Bool} (response : α) (failure : Failure) :
    (∃ answer, (if reported then .ok response else .error failure : Except Failure α) = .ok answer) ↔
      reported = true := by
  cases reported <;> simp

/-- A request for call paths is answered exactly if the reader of YAML does not break off at its
settings file and its search can keep the limit of the settings. -/
theorem findCallPaths_answered_iff (yaml : YamlReader) (disk : Disk) (request : FindRequest)
    (clock : Clock) : (∃ response, (findCallPaths yaml disk request clock).1 = .ok response) ↔
      ¬ (request.config = none ∧ HoldsYaml disk request.subject yaml.BreaksOff) ∧
        ¬ LimitBeyondClock yaml disk request := by
  cases hprepare : prepare yaml disk request.config request.subject with
  | error failure =>
      have hlimit : ¬ LimitBeyondClock yaml disk request := by
        rintro ⟨settings, index, start, name, hok, -⟩
        rw [hprepare] at hok
        cases hok
      rw [findCallPaths_of_error hprepare, exists_ite_ok_iff, isReported_iff hprepare,
        and_iff_left hlimit]
  | ok prepared =>
      have hfine : ¬ (request.config = none ∧ HoldsYaml disk request.subject yaml.BreaksOff) := by
        rintro ⟨hnone, hyaml⟩
        obtain ⟨fault, hfault, -⟩ := prepare_of_breaksOff hyaml
        rw [hnone, hfault] at hprepare
        cases hprepare
      rw [findCallPaths_answers_iff hprepare, and_iff_right hfine]

theorem listRoutines_answered_iff (yaml : YamlReader) (disk : Disk) (listing : ListRequest) :
    (∃ response, listRoutines yaml disk listing = .ok response) ↔
      ¬ HoldsYaml disk listing.subject yaml.BreaksOff := by
  cases hprepare : prepare yaml disk none listing.subject with
  | error failure =>
      rw [listRoutines_of_error hprepare, exists_ite_ok_iff, isReported_iff hprepare,
        and_iff_right rfl]
  | ok prepared =>
      rw [listRoutines, hprepare]
      refine iff_of_true ⟨_, rfl⟩ fun hyaml => ?_
      obtain ⟨fault, hfault, -⟩ := prepare_of_breaksOff hyaml
      rw [hfault] at hprepare
      cases hprepare

/-- Every request is answered, unless the reader of YAML breaks off at its settings file or its search
cannot keep the limit of the settings.  What else keeps settings or index from being obtained is
answered with one error and nothing else.  So a request is not answered if its settings file is
malformed YAML, for a reader that refuses it. -/
theorem answered_iff {yaml : YamlReader} {malformed : List Char → Prop}
    (hyaml : yaml.RefusesMalformed malformed) (disk : Disk) (request : FindRequest)
    (listing : ListRequest) (clock : Clock) :
    ((∃ response, (findCallPaths yaml disk request clock).1 = .ok response) ↔
      ¬ (request.config = none ∧ HoldsYaml disk request.subject yaml.BreaksOff) ∧
        ¬ LimitBeyondClock yaml disk request) ∧
    ((∃ response, listRoutines yaml disk listing = .ok response) ↔
      ¬ HoldsYaml disk listing.subject yaml.BreaksOff) ∧
    (∀ failure, prepare yaml disk request.config request.subject = .error failure →
      ¬ (request.config = none ∧ HoldsYaml disk request.subject yaml.BreaksOff) →
      (findCallPaths yaml disk request clock).1 =
        .ok { success := false, outcome := none, message := "", candidates := [],
              errors := [failure.message], summary := [] }) ∧
    (∀ failure, prepare yaml disk none listing.subject = .error failure →
      ¬ HoldsYaml disk listing.subject yaml.BreaksOff →
      listRoutines yaml disk listing =
        .ok { success := false, routines := [], errors := [failure.message] }) ∧
    (request.config = none → HoldsYaml disk request.subject malformed →
      ¬ ∃ response, (findCallPaths yaml disk request clock).1 = .ok response) ∧
    (HoldsYaml disk listing.subject malformed →
      ¬ ∃ response, listRoutines yaml disk listing = .ok response) := by
  refine ⟨findCallPaths_answered_iff yaml disk request clock,
    listRoutines_answered_iff yaml disk listing, fun failure hprepare hfine => ?_,
    fun failure hprepare hfine => ?_, fun hnone hmalformed hanswered => ?_,
    fun hmalformed hanswered => ?_⟩
  · rw [findCallPaths_of_error hprepare, if_pos ((isReported_iff hprepare).mpr hfine)]
  · rw [listRoutines_of_error hprepare,
      if_pos ((isReported_iff hprepare).mpr fun hyaml => hfine hyaml.2)]
  · exact ((findCallPaths_answered_iff yaml disk request clock).mp hanswered).1
      ⟨hnone, hmalformed.breaksOff hyaml⟩
  · exact (listRoutines_answered_iff yaml disk listing).mp hanswered (hmalformed.breaksOff hyaml)

/-- A list that does not end. -/
def unendedList : List Char := "exclude_dirs: [".toList

/-- A disk with a settings file in which a list does not end. -/
def malformedDisk : Disk := { tree := .directory [("c.yaml", .file (Utf8.encode "exclude_dirs: ["))] }

/-- Sources with a settings file in which a list does not end. -/
def malformedSubject : Subject where
  sources := some [("m.py", "def main(): work()")]
  configPath := some "c.yaml"

theorem holdsYaml_malformedSubject : HoldsYaml malformedDisk malformedSubject (· = unendedList) := by
  have hyaml : SettingsFile.isYaml "c.yaml" = true := by
    rw [SettingsFile.isYaml, Text.lowerAscii, String.map_eq_internal]
    decide
  have hstrict : (Utf8.strict (Utf8.encode "exclude_dirs: [")).toOption = some unendedList := by
    decide +kernel
  cases hcharacters : Utf8.strict (Utf8.encode "exclude_dirs: [") with
  | error fault =>
      rw [hcharacters] at hstrict
      cases hstrict
  | ok characters =>
      rw [hcharacters] at hstrict
      cases hstrict
      exact ⟨"c.yaml", _, _, rfl, by decide, hyaml, rfl, hcharacters, by decide⟩

theorem plainYaml_refusesMalformed :
    YamlReader.RefusesMalformed SettingsFile.plainYaml (· = unendedList) := by
  rintro document rfl
  have hread : (Yaml.read unendedList).isOk = false := by decide +kernel
  rw [SettingsFile.plainYaml]
  cases hproblem : Yaml.read unendedList with
  | error problem => exact ⟨_, rfl⟩
  | ok value =>
      rw [hproblem] at hread
      cases hread

theorem answered_iff_of_unended_list :
    YamlReader.RefusesMalformed SettingsFile.plainYaml (· = unendedList) ∧
      HoldsYaml malformedDisk malformedSubject (· = unendedList) ∧
      HoldsYaml malformedDisk malformedSubject (YamlReader.BreaksOff SettingsFile.plainYaml) ∧
      ¬ ∃ response, listRoutines SettingsFile.plainYaml malformedDisk
        { subject := malformedSubject, name := none } = .ok response := by
  have hanswered := answered_iff plainYaml_refusesMalformed malformedDisk
    { start := "main", method := some "work", config := none, timeout := none,
      subject := malformedSubject }
    { subject := malformedSubject, name := none } {}
  have hunanswered := hanswered.2.2.2.2.2 holdsYaml_malformedSubject
  exact ⟨plainYaml_refusesMalformed, holdsYaml_malformedSubject,
    not_not.mp (mt hanswered.2.1.mpr hunanswered), hunanswered⟩

/-- Neither kind of request is answered if its settings file is malformed YAML, whatever else it
asks for. -/
theorem malformed_yaml_unanswered :
    (¬ ∃ response, (findCallPaths SettingsFile.plainYaml malformedDisk
      { start := "main", method := some "work", config := none, timeout := none
        subject := { sources := some [("m.py", "def main(): work()")], configPath := some "c.yaml" } }
      {}).1 = .ok response) ∧
    ¬ ∃ response, listRoutines SettingsFile.plainYaml malformedDisk
      { subject := { sources := some [("m.py", "def main(): work()")], configPath := some "c.yaml" }
        name := none } = .ok response := by
  have hbroken := holdsYaml_malformedSubject.breaksOff plainYaml_refusesMalformed
  constructor
  · rw [findCallPaths_answered_iff]
    exact fun hanswered => hanswered.1 ⟨rfl, hbroken⟩
  · rw [listRoutines_answered_iff]
    exact not_not.mpr hbroken

end Service

end CallChain
