import Assay.Proofs.CommandContract

/-! # Configuration files that are refused

Most of what can be wrong with a configuration file is told as a mistake of the configuration,
which a run prints before it returns. Five faults are not foreseen: a path that cannot be there,
bytes that are no text, values that cannot be read, keys that are no texts, and numbers that are too
long to be written. They end the run.
-/

namespace Assay

/-! ## Keys and values -/

theorem Value.joinTexts_of_other {vs : List Value} {v : Value} (hv : v ∈ vs)
    (hother : ¬ v.IsTextual) : ∃ text, joinTexts vs = .error (.type text) := by
  unfold joinTexts
  split
  next => exact ⟨_, rfl⟩
  next hnone =>
    have htext : v.text?.isSome = true := by simpa using List.findIdx?_eq_none_iff.mp hnone v hv
    exact absurd htext hother

namespace Config

/-- Whether a key of a file names a field. -/
def Names (k : Value) (key : ConfigKey) : Prop := k.text? = some key.name

theorem ofName?_eq_some_iff {name : String} {key : ConfigKey} :
    ConfigKey.ofName? name = some key ↔ name = key.name := by
  constructor
  · intro h
    unfold ConfigKey.ofName? at h
    have hname := List.find?_some h
    exact (beq_iff_eq.mp hname).symm
  · rintro rfl
    exact ofName?_name key

theorem names_iff {k : Value} {key : ConfigKey} :
    Names k key ↔ k.text?.bind ConfigKey.ofName? = some key := by
  simp [Names, Option.bind_eq_some_iff, ofName?_eq_some_iff]

theorem Names.isTextual {k : Value} {key : ConfigKey} (h : Names k key) : k.IsTextual :=
  Option.isSome_iff_exists.mpr ⟨_, h⟩

theorem Names.unique {k : Value} {key other : ConfigKey} (h : Names k key) (ho : Names k other) :
    other = key :=
  Option.some.inj ((names_iff.mp ho).symm.trans (names_iff.mp h))

theorem isKnown_iff {k : Value} : isKnown k = true ↔ ∃ key : ConfigKey, key ≠ .source ∧ Names k key := by
  simp only [names_iff]
  unfold isKnown
  split
  next key hkey => simp [hkey]
  next hnone => simp [hnone]

theorem unknownKeys_of_texts {keys : List Value} (h : ∀ k ∈ keys, k.IsTextual) (source : Value) :
    ∃ text, unknownKeys keys source = .ok (.config text) := by
  have hsorted : ∀ k ∈ Value.sortByKey (fun k => k.text?.getD "") keys, k.IsTextual :=
    fun k hk => h k ((Value.sortByKey_perm _ keys).mem_iff.mp hk)
  simp only [unknownKeys, Value.sorted_textual h, Value.joinTexts_textual hsorted, Attempt.ok_bind]
  exact ⟨_, rfl⟩

/-- A key that is no text cannot be listed, if it can be put in order at all. -/
theorem unknownKeys_of_other {keys : List Value} {k : Value} (hk : k ∈ keys)
    (hother : ¬ k.IsTextual) (source : Value) :
    ∃ text, unknownKeys keys source = .error (.type text) := by
  cases hsorted : Value.sorted keys with
  | error message => exact ⟨message, by simp only [unknownKeys, hsorted]; rfl⟩
  | ok sorted =>
      have hmem : k ∈ sorted := (Value.sortIfOrdered_perm hsorted).mem_iff.mpr hk
      obtain ⟨text, htext⟩ := Value.joinTexts_of_other hmem hother
      exact ⟨text, by simp only [unknownKeys, hsorted, htext]; rfl⟩

/-- A text, or a list of texts. -/
def AreTexts (v : Value) : Prop := v.IsTextual ∨ ∃ vs, v = .list vs ∧ ∀ w ∈ vs, w.IsTextual

theorem areTexts_iff {v : Value} : AreTexts v ↔ ∃ vs, textsIn? v = some vs := by
  simp only [textsIn?_eq_some_iff]
  constructor
  · rintro (htext | ⟨vs, rfl, htexts⟩)
    · exact ⟨[v], .inl ⟨htext, rfl⟩, List.forall_mem_singleton.mpr htext⟩
    · exact ⟨vs, .inr rfl, htexts⟩
  · rintro ⟨vs, ⟨htext, -⟩ | hv, htexts⟩
    · exact .inl htext
    · exact .inr ⟨vs, hv, htexts⟩

/-- What a field can take from a file. Lists take texts, and what is written out must have a text. -/
structure Takes (key : ConfigKey) (v : Value) : Prop where
  texts : key.isList = true → AreTexts v
  short : key = .report ∨ key = .codeRoot → v.isTooLong = false

/-- The failure for a list with something else than texts, by the key that named it. -/
def misfit (k : Value) : Failure :=
  .config ("Configuration key " ++ k.shown ++ " must be a list of strings")

variable {key : ConfigKey} {k v : Value}

theorem valueFor_list (hkey : key.isList = true) (k v : Value) :
    AreTexts v ∧ (∃ w, valueFor key k v = .ok w) ∨
      ¬ AreTexts v ∧ valueFor key k v = .error (misfit k) := by
  rw [areTexts_iff]
  unfold valueFor
  rw [if_pos hkey]
  cases textsIn? v with
  | some vs => exact .inl ⟨⟨vs, rfl⟩, _, rfl⟩
  | none => exact .inr ⟨nofun, rfl⟩

theorem valueFor_single (hkey : key = .report ∨ key = .codeRoot) (k v : Value) :
    v.isTooLong = false ∧ (∃ w, valueFor key k v = .ok w) ∨
      v.isTooLong = true ∧ valueFor key k v = .error Value.tooLong := by
  have hlist : key.isList = false ∧ key ≠ .verbose := by rcases hkey with rfl | rfl <;> decide
  unfold valueFor
  rw [hlist.1, if_neg Bool.false_ne_true, if_neg hlist.2]
  split
  next => exact .inl ⟨rfl, _, rfl⟩
  next =>
    unfold Value.str?
    cases hlong : v.isTooLong with
    | true => exact .inr ⟨rfl, rfl⟩
    | false => exact .inl ⟨rfl, _, rfl⟩

/-- A value that a field does not take is a mistake, or too long. -/
theorem valueFor_cases (hkey : key ≠ .source) (k v : Value) :
    Takes key v ∧ (∃ w, valueFor key k v = .ok w) ∨
      ¬ Takes key v ∧ (key.isList = true ∧ valueFor key k v = .error (misfit k) ∨
        (key = .report ∨ key = .codeRoot) ∧ v.isTooLong = true ∧
          valueFor key k v = .error Value.tooLong) := by
  have hkinds : key.isList = true ∧ key ≠ .report ∧ key ≠ .codeRoot ∨
      key.isList = false ∧ (key = .report ∨ key = .codeRoot) ∨ key = .verbose := by
    cases key <;> simp [ConfigKey.isList] at hkey ⊢
  rcases hkinds with ⟨hlist, hreport, hroot⟩ | ⟨hlist, hsingle⟩ | rfl
  · rcases valueFor_list hlist k v with ⟨htexts, hok⟩ | ⟨hother, herror⟩
    · exact .inl ⟨⟨fun _ => htexts, by simp [hreport, hroot]⟩, hok⟩
    · exact .inr ⟨fun h => hother (h.texts hlist), .inl ⟨hlist, herror⟩⟩
  · rcases valueFor_single hsingle k v with ⟨hshort, hok⟩ | ⟨hlong, herror⟩
    · exact .inl ⟨⟨by simp [hlist], fun _ => hshort⟩, hok⟩
    · refine .inr ⟨fun h => ?_, .inr ⟨hsingle, hlong, herror⟩⟩
      cases hlong.symm.trans (h.short hsingle)
  · exact .inl ⟨⟨nofun, by simp⟩, _, rfl⟩

theorem takes_iff (hkey : key ≠ .source) (k : Value) :
    Takes key v ↔ ∃ w, valueFor key k v = .ok w := by
  rcases valueFor_cases hkey k v with ⟨htakes, hok⟩ | ⟨hnot, ⟨-, herror⟩ | ⟨-, -, herror⟩⟩
  · exact iff_of_true htakes hok
  all_goals exact iff_of_false hnot (by simp [herror])

/-! ## Entries -/

/-- Whether an entry names a field that takes its value. -/
def IsTaken (e : Value × Value) : Prop :=
  ∃ key : ConfigKey, key ≠ .source ∧ Names e.1 key ∧ Takes key e.2

theorem IsTaken.isKnown {e : Value × Value} (h : IsTaken e) : isKnown e.1 = true := by
  obtain ⟨key, hsource, hnames, -⟩ := h
  exact isKnown_iff.mpr ⟨key, hsource, hnames⟩

theorem isTaken_iff (hsource : key ≠ .source) (hnames : Names k key) :
    IsTaken (k, v) ↔ Takes key v := by
  constructor
  · rintro ⟨other, -, hother, htakes⟩
    exact hnames.unique hother ▸ htakes
  · exact fun h => ⟨key, hsource, hnames, h⟩

theorem assign_cons (c : Config) (hnames : Names k key) (v : Value)
    (rest : List (Value × Value)) :
    c.assign ((k, v) :: rest) = valueFor key k v >>= fun taken =>
      (match taken with
        | some w => c.set key w
        | none => c).assign rest := by
  rw [assign, names_iff.mp hnames]
  refine congrArg (valueFor key k v >>= ·) (funext fun taken => ?_)
  cases taken <;> rfl

/-- What a file fails with is the failure of the first value that its field does not take. -/
theorem assign_eq_error_iff {entries : List (Value × Value)}
    (h : ∀ e ∈ entries, isKnown e.1 = true) (c : Config) (f : Failure) :
    c.assign entries = .error f ↔ ∃ front k v back key, entries = front ++ (k, v) :: back ∧
      (∀ e ∈ front, IsTaken e) ∧ Names k key ∧ valueFor key k v = .error f := by
  induction entries generalizing c with
  | nil => exact ⟨nofun, fun ⟨front, _, _, _, _, hentries, _⟩ => by cases front <;> cases hentries⟩
  | cons e rest ih =>
      obtain ⟨k, v⟩ := e
      rw [List.forall_mem_cons] at h
      obtain ⟨key, hsource, hnames⟩ := isKnown_iff.mp h.1
      rw [assign_cons c hnames]
      constructor
      · intro hassign
        rcases Attempt.of_bind_eq_error hassign with herror | ⟨taken, htaken, hassign⟩
        · exact ⟨[], k, v, rest, key, rfl, List.forall_mem_nil _, hnames, herror⟩
        · obtain ⟨front, k', v', back, key', rfl, hfront, herror⟩ := (ih h.2 _).mp hassign
          have htakes : IsTaken (k, v) :=
            (isTaken_iff hsource hnames).mpr ((takes_iff hsource k).mpr ⟨taken, htaken⟩)
          exact ⟨(k, v) :: front, k', v', back, key', rfl,
            List.forall_mem_cons.mpr ⟨htakes, hfront⟩, herror⟩
      · rintro ⟨front, k', v', back, key', hentries, hfront, hnames', herror⟩
        cases front with
        | nil =>
            cases hentries
            rw [← hnames.unique hnames', herror]
            rfl
        | cons e front =>
            cases hentries
            rw [List.forall_mem_cons] at hfront
            obtain ⟨taken, htaken⟩ :=
              (takes_iff hsource k).mp ((isTaken_iff hsource hnames).mp hfront.1)
            rw [htaken, Attempt.ok_bind]
            exact (ih h.2 _).mpr ⟨front, k', v', back, key', rfl, hfront.2, hnames', herror⟩

/-- Faults among the entries of a file that are not foreseen, by the kinds of failures that they
end in. -/
inductive UnforeseenIn : List (Value × Value) → String → Prop where
  | otherKey {entries : List (Value × Value)} {e : Value × Value} (mem : e ∈ entries)
      (other : ¬ e.1.IsTextual) : UnforeseenIn entries "TypeError"
  /-- All keys are known, and no value that comes earlier is a mistake. -/
  | tooLong {front back : List (Value × Value)} {k v : Value} {key : ConfigKey}
      (known : ∀ e ∈ front ++ (k, v) :: back, isKnown e.1 = true)
      (taken : ∀ e ∈ front, IsTaken e) (names : Names k key)
      (single : key = .report ∨ key = .codeRoot) (long : v.isTooLong = true) :
      UnforeseenIn (front ++ (k, v) :: back) "ValueError"

/-- The keys of entries that are not known. -/
def unknownOf (entries : List (Value × Value)) : List Value :=
  (entries.map (·.1)).filter fun k => !isKnown k

theorem mem_unknownOf {entries : List (Value × Value)} {k : Value} :
    k ∈ unknownOf entries ↔ (∃ e ∈ entries, e.1 = k) ∧ isKnown k = false := by
  simp [unknownOf]

theorem unknownOf_eq_nil_iff {entries : List (Value × Value)} :
    unknownOf entries = [] ↔ ∀ e ∈ entries, isKnown e.1 = true := by
  simp [unknownOf]

theorem ofEntries_of_known {entries : List (Value × Value)} (h : ∀ e ∈ entries, isKnown e.1 = true)
    (source : Value) : ofEntries entries source =
      (({} : Config).assign entries).map (·.set .source source) := by
  unfold ofEntries
  rw [← unknownOf, unknownOf_eq_nil_iff.mpr h]
  cases ({} : Config).assign entries <;> rfl

theorem ofEntries_of_unknown {entries : List (Value × Value)} (h : unknownOf entries ≠ [])
    (source : Value) : ofEntries entries source =
      unknownKeys (unknownOf entries) source >>= fun f => .error f := by
  unfold ofEntries
  rw [← unknownOf, if_neg (by simpa using h)]
  rfl

theorem ofEntries_error {entries : List (Value × Value)} {source : Value} {f : Failure}
    (h : ofEntries entries source = .error f) :
    (∃ text, f = .config text) ∨ UnforeseenIn entries f.kind := by
  -- values are looked at only if all keys are known
  by_cases hknown : ∀ e ∈ entries, isKnown e.1 = true
  · rw [ofEntries_of_known hknown] at h
    obtain ⟨front, k, v, back, key, rfl, hfront, hnames, herror⟩ :=
      (assign_eq_error_iff hknown {} f).mp (Attempt.of_map_eq_error h)
    obtain ⟨other, hsource, hother⟩ := isKnown_iff.mp (hknown (k, v) (by simp))
    obtain rfl := hnames.unique hother
    rcases valueFor_cases hsource k v with
      ⟨-, w, hok⟩ | ⟨-, ⟨-, hmisfit⟩ | ⟨hsingle, hlong, htooLong⟩⟩
    · cases hok.symm.trans herror
    · exact .inl ⟨_, Except.error.inj (herror.symm.trans hmisfit)⟩
    · rw [Except.error.inj (herror.symm.trans htooLong)]
      exact .inr (.tooLong hknown hfront hnames hsingle hlong)
  · rw [ofEntries_of_unknown (mt unknownOf_eq_nil_iff.mp hknown)] at h
    by_cases htexts : ∀ k ∈ unknownOf entries, k.IsTextual
    · obtain ⟨text, htext⟩ := unknownKeys_of_texts htexts source
      rw [htext] at h
      exact .inl ⟨text, (Except.error.inj h).symm⟩
    · simp only [not_forall] at htexts
      obtain ⟨k, hk, hother⟩ := htexts
      obtain ⟨⟨e, he, rfl⟩, -⟩ := mem_unknownOf.mp hk
      obtain ⟨text, htext⟩ := unknownKeys_of_other hk hother source
      rw [htext] at h
      cases h
      exact .inr (.otherKey he hother)

theorem UnforeseenIn.ofEntries {entries : List (Value × Value)} {kind : String}
    (h : UnforeseenIn entries kind) (source : Value) :
    ∃ f, ofEntries entries source = .error f ∧ f.kind = kind := by
  cases h with
  | @otherKey _ e mem other =>
      have hunknown : e.1 ∈ unknownOf entries := by
        refine mem_unknownOf.mpr ⟨⟨e, mem, rfl⟩, Bool.eq_false_iff.mpr fun hknown => ?_⟩
        obtain ⟨key, -, hkey⟩ := isKnown_iff.mp hknown
        exact other hkey.isTextual
      obtain ⟨text, htext⟩ := unknownKeys_of_other hunknown other source
      rw [ofEntries_of_unknown (List.ne_nil_of_mem hunknown), htext]
      exact ⟨_, rfl, rfl⟩
  | @tooLong front back k v key known taken names single long =>
      rcases valueFor_single single k v with ⟨hshort, -⟩ | ⟨-, htooLong⟩
      · cases hshort.symm.trans long
      · rw [ofEntries_of_known known, (assign_eq_error_iff known {} _).mpr
          ⟨front, k, v, back, key, rfl, taken, names, htooLong⟩]
        exact ⟨_, rfl, rfl⟩

/-! ## Files -/

/-- What a file holds. An empty file and any other empty value are an empty mapping. -/
def Holds {π : Type} (tree : FileTree π) (path : Path) (entries : List (Value × Value)) : Prop :=
  ∃ file v, tree.openText path = .ok file ∧ Yaml.load file = .ok v ∧
    (if v.isTrue then v else .mapping []) = .mapping entries

/-- Faults of a configuration file that are not foreseen, by the kinds of failures that they end
in. What fails while the file is read can be a value, or bytes that are no text, if it comes to
them. -/
inductive Unforeseen {π : Type} (tree : FileTree π) (path : Path) : String → Prop where
  | impossiblePath (nul : FileTree.hasNul path = true) : Unforeseen tree path "ValueError"
  | unread {file : TextStream} {f : Failure} (opened : tree.openText path = .ok file)
      (failed : Yaml.load file = .error (.failed f)) : Unforeseen tree path f.kind
  | entries {entries : List (Value × Value)} {kind : String} (holds : Holds tree path entries)
      (unforeseen : UnforeseenIn entries kind) : Unforeseen tree path kind

end Config

section

variable {π : Type} {tree : FileTree π} {path : Path}

/-- A file that cannot be opened is refused by the system, unless its path cannot be there. -/
theorem FileTree.openText_error {f : Failure} (h : tree.openText path = .error f) :
    f.isSystemFailure = true ∨ hasNul path = true ∧ f = .value "embedded null byte" := by
  rcases Attempt.of_bind_eq_error h with hbytes | ⟨bytes, -, h⟩
  · exact readBytes_error hbytes
  · cases h

theorem FileTree.openText_of_hasNul (h : hasNul path = true) :
    tree.openText path = .error (.value "embedded null byte") := by
  rw [openText, readBytes, locate_of_hasNul h]
  rfl

namespace Config

theorem ofFile_of_unopened {f : Failure} (h : tree.openText path = .error f)
    (hforeign : f.isSystemFailure = false) : ofFile tree path = .error f := by
  simp only [ofFile, h, hforeign]
  rfl

theorem ofFile_of_loaded {file : TextStream} {v : Value} (hfile : tree.openText path = .ok file)
    (hload : Yaml.load file = .ok v) :
    ofFile tree path = match if v.isTrue then v else .mapping [] with
      | .mapping entries => ofEntries entries (.text path.toString)
      | _ => .error
          (.config ("Configuration file " ++ path.toString ++ " must contain a mapping")) := by
  simp only [ofFile, hfile, hload]
  rfl

theorem ofFile_error {f : Failure} (h : ofFile tree path = .error f) :
    (∃ text, f = .config text) ∨ Unforeseen tree path f.kind := by
  cases hfile : tree.openText path with
  | error g =>
      cases hsystem : g.isSystemFailure with
      | true =>
          simp only [ofFile, hfile, hsystem] at h
          cases h
          exact .inl ⟨_, rfl⟩
      | false =>
          cases (ofFile_of_unopened hfile hsystem).symm.trans h
          rcases FileTree.openText_error hfile with htrue | ⟨hnul, rfl⟩
          · cases hsystem.symm.trans htrue
          · exact .inr (.impossiblePath hnul)
  | ok file =>
      cases hload : Yaml.load file with
      | error fault =>
          simp only [ofFile, hfile, hload] at h
          cases fault with
          | invalid =>
              cases h
              exact .inl ⟨_, rfl⟩
          | failed g =>
              cases h
              exact .inr (.unread hfile hload)
      | ok v =>
          rw [ofFile_of_loaded hfile hload] at h
          split at h
          next entries hentries =>
            refine (ofEntries_error h).imp_right fun hunforeseen => ?_
            exact .entries ⟨file, v, hfile, hload, hentries⟩ hunforeseen
          next =>
            cases h
            exact .inl ⟨_, rfl⟩

theorem Unforeseen.ofFile {kind : String} (h : Unforeseen tree path kind) :
    ∃ f, ofFile tree path = .error f ∧ f.kind = kind := by
  cases h with
  | impossiblePath nul =>
      exact ⟨_, ofFile_of_unopened (FileTree.openText_of_hasNul nul) rfl, rfl⟩
  | @unread file f opened failed =>
      refine ⟨f, ?_, rfl⟩
      simp only [Config.ofFile, opened, failed]
      rfl
  | entries holds unforeseen =>
      obtain ⟨file, v, hfile, hload, hentries⟩ := holds
      rw [ofFile_of_loaded hfile hload, hentries]
      exact unforeseen.ofEntries _

/-- No fault that is not foreseen is told in the host's name. -/
theorem Unforeseen.isHostFailure_eq_false {f : Failure} (h : Unforeseen tree path f.kind)
    (hforeign : ∀ file g, tree.openText path = .ok file → Yaml.load file = .error (.failed g) →
      g.isHostFailure = false) : f.isHostFailure = false := by
  generalize hkind : f.kind = kind at h
  unfold Failure.isHostFailure
  rw [hkind]
  cases h with
  | impossiblePath => decide +kernel
  | unread opened failed => exact hforeign _ _ opened failed
  | entries _ unforeseen => cases unforeseen <;> decide +kernel

/-- What a look at a path fails with is not told in the host's name. -/
theorem firstFile_error {paths : List Path} {f : Failure} (h : firstFile tree paths = .error f) :
    f.isHostFailure = false := by
  induction paths with
  | nil => cases h
  | cons p rest ih =>
      rcases Attempt.of_bind_eq_error h with hlook | ⟨found, -, h⟩
      · obtain ⟨fault, -, -, rfl⟩ := FileTree.isFile_error hlook
        cases fault <;> simp [FileTree.faultOf, FileTree.deniedFault, Failure.isHostFailure,
          Failure.system, Failure.value, Failure.of, Failure.ofArguments]
      · split at h
        next => cases h
        next => exact ih h

end Config

end

namespace Command

open Plugin

/-! ## Runs -/

/-- The file that the configuration of a run is from: the one that the arguments name, or the first
in the working directory that has one of the names, if there is any. -/
def configFile? (tree : FileTree Program) (a : Arguments) : Except Failure (Option Path) :=
  match a.config with
  | some path => .ok (some (Path.ofString path))
  | none => Config.firstFile tree (Config.fileNames.map tree.workingDirectory.child)

variable {tree : FileTree Program} {a : Arguments}

theorem fileConfigOf_eq (tree : FileTree Program) (a : Arguments) :
    fileConfigOf tree a = configFile? tree a >>= fun found =>
      match found with
      | some path => Config.ofFile tree path
      | none => .ok {} := by
  unfold configFile? fileConfigOf
  cases a.config <;> rfl

/-- How a run takes its configuration: it has no file, or cannot look for one, or the file is loaded,
refused, or has a fault that is not foreseen. -/
inductive Loads (console : Report.Console) (tree : FileTree Program) (arguments : List String)
    (a : Arguments) : Prop where
  | absent (found : configFile? tree a = .ok none)
      (run : run console tree arguments =
        runWith console tree a (({} : Config).overridden (fieldsOf a)))
  | unseen (f : Failure) (found : configFile? tree a = .error f)
      (ending : (run console tree arguments).ending = .failed f)
  | loaded (path : Path) (config : Config) (found : configFile? tree a = .ok (some path))
      (file : Config.ofFile tree path = .ok config)
      (run : run console tree arguments = runWith console tree a (config.overridden (fieldsOf a)))
  | refused (path : Path) (text : String) (found : configFile? tree a = .ok (some path))
      (file : Config.ofFile tree path = .error (.config text))
      (returned : (run console tree arguments).ending.returned? = some 2)
      (printed : (run console tree arguments).errors = console.printError text)
  | unforeseen (path : Path) (f : Failure) (found : configFile? tree a = .ok (some path))
      (file : Config.ofFile tree path = .error f) (fault : Config.Unforeseen tree path f.kind)
      (ending : (run console tree arguments).ending = .failed f)

theorem run_of_configOf_ok (console : Report.Console) {arguments : List String} {config : Config}
    (hparse : Arguments.parse arguments = .ok a) (h : fileConfigOf tree a = .ok config) :
    run console tree arguments = runWith console tree a (config.overridden (fieldsOf a)) := by
  have hconfig : configOf tree a = .ok (config.overridden (fieldsOf a)) := by
    rw [configOf_eq, h]
    rfl
  simp only [run, hparse, hconfig]

/-- A run that cannot load its configuration ends with this failure. -/
theorem run_of_configOf_error (console : Report.Console) {arguments : List String} {f : Failure}
    (hparse : Arguments.parse arguments = .ok a) (h : fileConfigOf tree a = .error f) :
    run console tree arguments = failWith console { ending := .exit .error, tree } f := by
  have hconfig : configOf tree a = .error f := by
    rw [configOf_eq, h]
    rfl
  simp only [run, hparse, hconfig]

theorem failWith_of_foreign (console : Report.Console) (o : Outcome) {f : Failure}
    (h : f.isHostFailure = false) : (failWith console o f).ending = .failed f := by
  rw [failWith, h]
  rfl

theorem parse_config :
    Arguments.parse ["--config", "c.yaml"] = .ok { config := some "c.yaml" } := by
  have hpieces : Piece.ofArguments ["--config", "c.yaml"] =
      .ok [.option .config none, .plain "c.yaml"] := by decide +kernel
  rw [Arguments.parse, hpieces]
  rfl

end Command

end Assay
