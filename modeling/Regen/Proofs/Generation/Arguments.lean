import Regen.Generation.Request
import Regen.Proofs.Text.Order

/-!
# Arguments that determine the request

The arguments of the script are read back: the options before the directory of the result are told
apart by their names, whatever names the further options have, since these come after it. So two
requests have the same arguments exactly if they show the same fields and have the same further
options, in whatever order these were given (`Request.arguments_eq_iff`), and for fields that are
texts this means that the requests agree in every field (`Request.command_eq_iff`).
-/

namespace Regen.Generation

open Text

namespace Request

variable {φ : Type} [Setting φ] {r r' : Request φ} {name name' : String} {x y : φ}

/-- The options can be told apart: they are under different names, none of which has an equals sign
in it, and no middleware has a comma in its name. -/
structure IsPlain (r : Request φ) : Prop where
  distinct : r.options.keys.Nodup
  keys : ∀ key ∈ r.options.keys, '=' ∉ key
  middleware : ∀ m ∈ r.middleware, ',' ∉ m

/-! ## The name of an argument -/

/-- What stands in an argument before its equals sign. -/
def argumentName (a : Text) : Text := a.takeWhile (· ≠ '=')

theorem argumentName_valued (h : '=' ∉ name.toList) (value : Text) :
    argumentName (valued name value) = name.toList := by
  unfold argumentName valued
  rw [List.takeWhile_append_of_pos]
  · simp
  · intro c hc
    have hne : c ≠ '=' := fun heq => h (heq ▸ hc)
    simpa using hne

theorem valued_eq_iff {value value' : Text} :
    valued name value = valued name value' ↔ value = value' := by
  unfold valued
  rw [List.append_cancel_left_eq, List.cons_eq_cons]
  exact and_iff_right rfl

/-- Arguments that go by one name. -/
def AreNamed (name : String) (as : List Text) : Prop := ∀ a ∈ as, argumentName a = name.toList

theorem areNamed_optional (h : '=' ∉ name.toList) (x : φ) : AreNamed name (optional name x) := by
  unfold optional
  split
  · rw [AreNamed, List.forall_mem_singleton]
    exact argumentName_valued h _
  · exact nofun

omit [Setting φ] in
theorem areNamed_middlewareOption (r : Request φ) :
    AreNamed "--middleware" r.middlewareOption := by
  unfold middlewareOption
  split
  · exact nofun
  · rw [AreNamed, List.forall_mem_singleton]
    exact argumentName_valued (by decide) _

/-- The arguments under a name. -/
def under (name : String) (as : List Text) : List Text :=
  as.filter fun a => argumentName a = name.toList

theorem AreNamed.under_eq {as : List Text} (h : AreNamed name as) (name' : String) :
    under name' as = if name = name' then as else [] := by
  unfold under
  by_cases heq : name = name'
  · rw [if_pos heq]
    exact List.filter_eq_self.2 fun a ha => decide_eq_true (heq ▸ h a ha)
  · rw [if_neg heq]
    refine List.filter_eq_nil_iff.2 fun a ha => ?_
    rw [decide_eq_true_eq, h a ha, String.toList_inj]
    exact heq

/-! ## The options before the directory of the result -/

/-- The options that are left out where nothing is asked for. -/
def leading (r : Request φ) : List Text :=
  optional "--serie" r.series ++ optional "--board" r.board ++ optional "--app" r.application ++
    r.middlewareOption ++ optional "--toolchain" r.toolchain ++
    optional "--xcube-firmware-directory" r.firmwareDirectory

/-- The option that is never left out. -/
def directoryOption (r : Request φ) : Text :=
  valued "--output-directory" (Setting.toText r.outputDirectory)

theorem arguments_eq (r : Request φ) :
    r.arguments =
      r.kind.flag.toList :: (r.leading ++ r.directoryOption :: r.sortedOptions.map further) := by
  unfold arguments leading directoryOption
  simp only [List.append_assoc, List.cons_append, List.nil_append]

/-- The options under a name, before the directory of the result. -/
theorem under_leading (r : Request φ) (name : String) :
    under name r.leading =
      (if "--serie" = name then optional "--serie" r.series else []) ++
      (if "--board" = name then optional "--board" r.board else []) ++
      (if "--app" = name then optional "--app" r.application else []) ++
      (if "--middleware" = name then r.middlewareOption else []) ++
      (if "--toolchain" = name then optional "--toolchain" r.toolchain else []) ++
      (if "--xcube-firmware-directory" = name then
        optional "--xcube-firmware-directory" r.firmwareDirectory else []) := by
  have hoptional {option : String} (h : '=' ∉ option.toList) (x : φ) :=
    (areNamed_optional h x).under_eq name
  rw [← hoptional (by decide) r.series, ← hoptional (by decide) r.board,
    ← hoptional (by decide) r.application, ← hoptional (by decide) r.toolchain,
    ← hoptional (by decide) r.firmwareDirectory, ← r.areNamed_middlewareOption.under_eq name]
  simp only [leading, under, List.filter_append]

/-- No option before the directory of the result goes by its name. -/
theorem argumentName_leading (r : Request φ) :
    ∀ a ∈ r.leading, argumentName a ≠ "--output-directory".toList := by
  have hnone : under "--output-directory" r.leading = [] := by
    rw [under_leading]
    simp
  rw [under, List.filter_eq_nil_iff] at hnone
  exact fun a ha hname => hnone a ha (decide_eq_true hname)

/-- Lists that are cut at the first item of a kind are the same before it, at it and after it. -/
theorem append_cons_inj {as as' rest rest' : List Text} {a a' : Text} {p : Text → Prop}
    (has : ∀ b ∈ as, ¬ p b) (has' : ∀ b ∈ as', ¬ p b) (ha : p a) (ha' : p a')
    (h : as ++ a :: rest = as' ++ a' :: rest') : as = as' ∧ a = a' ∧ rest = rest' := by
  induction as generalizing as' with
  | nil =>
    cases as' with
    | nil =>
      obtain ⟨ha, hrest⟩ := List.cons.inj h
      exact ⟨rfl, ha, hrest⟩
    | cons b' as' =>
      obtain rfl := (List.cons.inj h).1
      exact absurd ha (has' a List.mem_cons_self)
  | cons b as ih =>
    cases as' with
    | nil =>
      obtain rfl := (List.cons.inj h).1
      exact absurd ha' (has b List.mem_cons_self)
    | cons b' as' =>
      obtain ⟨rfl, htail⟩ := List.cons.inj h
      obtain ⟨rfl, hrest⟩ := ih (List.forall_mem_cons.1 has).2 (List.forall_mem_cons.1 has').2 htail
      exact ⟨rfl, hrest⟩

/-- The arguments are the pipeline's flag, the options that may be left out, the directory of the
result and the further options, and each of the four can be told. -/
theorem parts_eq_of_arguments_eq (h : r.arguments = r'.arguments) :
    r.kind.flag.toList = r'.kind.flag.toList ∧ r.leading = r'.leading ∧
      r.directoryOption = r'.directoryOption ∧
      r.sortedOptions.map further = r'.sortedOptions.map further := by
  rw [arguments_eq, arguments_eq] at h
  obtain ⟨hflag, h⟩ := List.cons.inj h
  refine ⟨hflag, append_cons_inj (p := (argumentName · = "--output-directory".toList))
    r.argumentName_leading r'.argumentName_leading ?_ ?_ h⟩
  · exact argumentName_valued (by decide) _
  · exact argumentName_valued (by decide) _

/-! ## What the options show -/

/-- What the arguments show of a field: its text, if it is filled. -/
def shown (x : φ) : Option Text :=
  if Setting.isFilled x then some (Setting.toText x) else none

theorem optional_eq_iff (name : String) : optional name x = optional name y ↔ shown x = shown y := by
  unfold optional shown
  by_cases hx : Setting.isFilled x = true <;> by_cases hy : Setting.isFilled y = true <;>
    simp [hx, hy, valued_eq_iff]

omit [Setting φ] in
/-- Middleware without commas in its names is read back. -/
theorem middlewareOption_eq_iff (hr : r.IsPlain) (hr' : r'.IsPlain) :
    r.middlewareOption = r'.middlewareOption ↔ r.middleware = r'.middleware := by
  refine ⟨fun h => ?_, fun h => by unfold middlewareOption; rw [h]⟩
  unfold middlewareOption at h
  split at h <;> split at h
  · rename_i hnil hnil'
    rw [hnil, hnil']
  · exact nomatch h
  · exact nomatch h
  · rename_i hne hne'
    have hjoined := valued_eq_iff.1 (List.cons.inj h).1
    rw [← List.splitOn_intercalate ',' hr.middleware hne, hjoined,
      List.splitOn_intercalate ',' hr'.middleware hne']

theorem leading_eq_iff (hr : r.IsPlain) (hr' : r'.IsPlain) :
    r.leading = r'.leading ↔
      shown r.series = shown r'.series ∧ shown r.board = shown r'.board ∧
      shown r.application = shown r'.application ∧ r.middleware = r'.middleware ∧
      shown r.toolchain = shown r'.toolchain ∧
      shown r.firmwareDirectory = shown r'.firmwareDirectory := by
  rw [← middlewareOption_eq_iff hr hr', ← optional_eq_iff "--serie",
    ← optional_eq_iff "--board", ← optional_eq_iff "--app",
    ← optional_eq_iff "--toolchain",
    ← optional_eq_iff "--xcube-firmware-directory"]
  constructor
  · intro h
    have hunder (name : String) : under name r.leading = under name r'.leading := by rw [h]
    simp only [under_leading] at hunder
    exact ⟨by simpa using hunder "--serie", by simpa using hunder "--board",
      by simpa using hunder "--app", by simpa using hunder "--middleware",
      by simpa using hunder "--toolchain", by simpa using hunder "--xcube-firmware-directory"⟩
  · rintro ⟨hseries, hboard, happlication, hmiddleware, htoolchain, hfirmware⟩
    unfold leading
    rw [hseries, hboard, happlication, hmiddleware, htoolchain, hfirmware]

/-! ## The further options -/

/-- Reads a further option back. -/
def readFurther (a : Text) : Text × Text :=
  let t := a.drop 2
  (t.takeWhile (· ≠ '='), (t.dropWhile (· ≠ '=')).drop 1)

theorem readFurther_further {option : Text × Text} (h : '=' ∉ option.1) :
    readFurther (further option) = option := by
  obtain ⟨key, value⟩ := option
  have hkey : ∀ c ∈ key, decide (c ≠ '=') = true := fun c hc =>
    decide_eq_true fun heq => h (heq ▸ hc)
  unfold readFurther further
  cases value with
  | nil =>
    show (key ++ [] |>.takeWhile _, (key ++ [] |>.dropWhile _).drop 1) = (key, [])
    rw [List.takeWhile_append_of_pos hkey, List.dropWhile_append_of_pos hkey]
    simp
  | cons c value =>
    show (key ++ '=' :: c :: value |>.takeWhile _, (key ++ '=' :: c :: value |>.dropWhile _).drop 1) =
      (key, c :: value)
    rw [List.takeWhile_append_of_pos hkey, List.dropWhile_append_of_pos hkey]
    simp

omit [Setting φ] in
theorem perm_sortedOptions (r : Request φ) : r.sortedOptions.Perm r.options :=
  List.mergeSort_perm r.options _

omit [Setting φ] in
theorem IsPlain.map_readFurther (h : r.IsPlain) :
    (r.sortedOptions.map further).map readFurther = r.sortedOptions := by
  rw [List.map_map]
  refine (List.map_congr_left fun option hoption => ?_).trans (List.map_id _)
  exact readFurther_further (h.keys _ (List.mem_map_of_mem (r.perm_sortedOptions.mem_iff.1 hoption)))

omit [Setting φ] in
/-- The further options are the same if they have the same values under the same names, in whatever
order. -/
theorem further_eq_iff (hr : r.IsPlain) (hr' : r'.IsPlain) :
    r.sortedOptions.map further = r'.sortedOptions.map further ↔
      ∀ key, r.options.get? key = r'.options.get? key := by
  rw [← Keyed.perm_iff hr.distinct hr'.distinct]
  constructor
  · intro h
    have hsorted : r.sortedOptions = r'.sortedOptions := by
      rw [← hr.map_readFurther, h, hr'.map_readFurther]
    exact (perm_sortedOptions r).symm.trans (hsorted ▸ perm_sortedOptions r')
  · intro hperm
    have hsorted : r.sortedOptions = r'.sortedOptions := by
      refine mergeSort_eq_of_perm hperm fun x hx y hy hkey => ?_
      have hy := hperm.mem_iff.2 hy
      have hget := (Keyed.get?_eq_some_iff hr.distinct).2 hx
      have hget' := (Keyed.get?_eq_some_iff hr.distinct).2 hy
      rw [hkey, hget'] at hget
      exact Prod.ext hkey (Option.some.inj hget).symm
    rw [hsorted]

/-! ## The arguments -/

/-- What two requests have in common that are the same for the script. -/
structure LooksLike (r r' : Request φ) : Prop where
  kind : r.kind = r'.kind
  series : shown r.series = shown r'.series
  board : shown r.board = shown r'.board
  application : shown r.application = shown r'.application
  middleware : r.middleware = r'.middleware
  toolchain : shown r.toolchain = shown r'.toolchain
  firmwareDirectory : shown r.firmwareDirectory = shown r'.firmwareDirectory
  outputDirectory : Setting.toText r.outputDirectory = Setting.toText r'.outputDirectory
  options : ∀ key, r.options.get? key = r'.options.get? key

theorem flag_injective {k k' : Kind} (h : k.flag.toList = k'.flag.toList) : k = k' := by
  cases k <;> cases k' <;> first | rfl | exact absurd h (by decide)

/-- The arguments are the same exactly if the requests are, as far as the script is concerned. -/
theorem arguments_eq_iff (hr : r.IsPlain) (hr' : r'.IsPlain) :
    r.arguments = r'.arguments ↔ r.LooksLike r' := by
  constructor
  · intro h
    obtain ⟨hflag, hleading, hdirectory, hfurther⟩ := parts_eq_of_arguments_eq h
    obtain ⟨hseries, hboard, happlication, hmiddleware, htoolchain, hfirmware⟩ :=
      (leading_eq_iff hr hr').1 hleading
    exact ⟨flag_injective hflag, hseries, hboard, happlication, hmiddleware, htoolchain, hfirmware,
      valued_eq_iff.1 hdirectory, (further_eq_iff hr hr').1 hfurther⟩
  · intro h
    have hleading := (leading_eq_iff hr hr').2
      ⟨h.series, h.board, h.application, h.middleware, h.toolchain, h.firmwareDirectory⟩
    have hfurther := (further_eq_iff hr hr').2 h.options
    rw [arguments_eq, arguments_eq, h.kind, hleading, directoryOption, h.outputDirectory, hfurther]
    rfl

theorem shown_text_eq_iff {t t' : Text} : shown t = shown t' ↔ t = t' := by
  have hshown (t : Text) : shown t = if t = [] then none else some t := by
    cases t <;> rfl
  rw [hshown, hshown]
  by_cases ht : t = [] <;> by_cases ht' : t' = [] <;> simp_all [eq_comm]

/-- The command line determines the request, whatever program and script it names: two requests of
texts have one command line exactly if they agree in every field and have the same values under the
same names for further options. The order in which the options were given does not show. -/
theorem command_eq_iff {r r' : Request Text} (hr : r.IsPlain) (hr' : r'.IsPlain)
    (interpreter script : Text) :
    r.command interpreter script = r'.command interpreter script ↔
      r.kind = r'.kind ∧ r.series = r'.series ∧ r.board = r'.board ∧
      r.application = r'.application ∧ r.middleware = r'.middleware ∧
      r.toolchain = r'.toolchain ∧ r.firmwareDirectory = r'.firmwareDirectory ∧
      r.outputDirectory = r'.outputDirectory ∧
      ∀ key, r.options.get? key = r'.options.get? key := by
  have hcommand : r.command interpreter script = r'.command interpreter script ↔
      r.arguments = r'.arguments := by
    simp only [command, List.cons.injEq, true_and]
  rw [hcommand, arguments_eq_iff hr hr']
  constructor
  · intro h
    exact ⟨h.kind, shown_text_eq_iff.1 h.series, shown_text_eq_iff.1 h.board,
      shown_text_eq_iff.1 h.application, h.middleware, shown_text_eq_iff.1 h.toolchain,
      shown_text_eq_iff.1 h.firmwareDirectory, h.outputDirectory, h.options⟩
  · rintro ⟨hkind, hseries, hboard, happlication, hmiddleware, htoolchain, hfirmware, hdirectory,
      hoptions⟩
    exact ⟨hkind, shown_text_eq_iff.2 hseries, shown_text_eq_iff.2 hboard,
      shown_text_eq_iff.2 happlication, hmiddleware, shown_text_eq_iff.2 htoolchain,
      shown_text_eq_iff.2 hfirmware, hdirectory, hoptions⟩

/-- The order of two further options does not show, one of them named like an option for the series;
but to ask for the series itself makes another command line. -/
theorem command_with_series_option :
    let r : Request Text :=
      { kind := .pack, series := [], board := [], application := []
        middleware := ["ThreadX".toList, "FileX".toList], toolchain := [], firmwareDirectory := []
        outputDirectory := "out".toList
        options := [("serie".toList, "h7".toList), ("verbose".toList, [])] }
    let swapped := { r with options := [("verbose".toList, []), ("serie".toList, "h7".toList)] }
    let asked := { r with series := "h7".toList, options := [("verbose".toList, [])] }
    r.IsPlain ∧ swapped.IsPlain ∧ asked.IsPlain ∧
      r.command "python3".toList "gen.py".toList = swapped.command "python3".toList "gen.py".toList ∧
      r.command "python3".toList "gen.py".toList ≠ asked.command "python3".toList "gen.py".toList := by
  intro r swapped asked
  have hr : r.IsPlain := ⟨by decide, by decide, by decide⟩
  have hswapped : swapped.IsPlain := ⟨by decide, by decide, by decide⟩
  have hasked : asked.IsPlain := ⟨by decide, by decide, by decide⟩
  refine ⟨hr, hswapped, hasked, ?_, fun h => ?_⟩
  · have hoptions := (Keyed.perm_iff hr.distinct hswapped.distinct).1 (List.Perm.swap _ _ _)
    exact (command_eq_iff hr hswapped _ _).2 ⟨rfl, rfl, rfl, rfl, rfl, rfl, rfl, rfl, hoptions⟩
  · exact absurd ((command_eq_iff hr hasked _ _).1 h).2.1 (by decide)

end Request

end Regen.Generation
