/-
# Where the required images are

A path leads from the root through its components, one level down for each name and one level up for
two dots (`Path.resolve`).  The components of a name on the list lead on from the directory of the
target, and what they come to is a route of so many levels up and then down, whatever the directory
is (`Route.of`).  So the path of a name is at or below the directory if its route does not go up, or
goes down again through the same directories (`resolve_imagePaths`).  Since slashes are all that is
taken off the start of a name, dots may lead out of the directory (`not_forall_within`).
-/
import DeviceFleet.Proofs.LocalBuild.FirstFault
import DeviceFleet.Proofs.LocalBuild.ManifestLines
import Mathlib.Data.List.Infix

namespace DeviceFleet

variable {c : List Char} {cs : List (List Char)}

namespace Path

/-! ## Resolving paths -/

/-- The component that stands for the level above. -/
def up : List Char := ['.', '.']

/-- The components of a path.  Empty ones and single dots lead nowhere and are left out. -/
def components (p : List Char) : List (List Char) :=
  (p.splitOn '/').filter fun c => c ≠ [] ∧ c ≠ ['.']

/-- Where a component leads from a location; above the root there is the root. -/
def follow (location : List (List Char)) (c : List Char) : List (List Char) :=
  if c = up then location.dropLast else location ++ [c]

/-- The location that a path names if there are no links: the names on the way from the root. -/
def resolve (p : String) : List (List Char) := (components p.toList).foldl follow []

/-- The location of the path is that of the directory, or below. -/
def Within (dir p : String) : Prop := resolve dir <+: resolve p

instance (dir p : String) : Decidable (Within dir p) := inferInstanceAs (Decidable (_ <+: _))

lemma components_append_slash (p q : List Char) :
    components (p ++ '/' :: q) = components p ++ components q := by
  rw [components, List.splitOn_append_cons_self, List.filter_append]
  rfl

/-- What a path below a directory names is found from the location of the directory on. -/
lemma resolve_append_slash (dir : String) (p : List Char) :
    resolve (dir ++ "/" ++ String.ofList p) = (components p).foldl follow (resolve dir) := by
  have hlist : (dir ++ "/" ++ String.ofList p).toList = dir.toList ++ '/' :: p := by simp
  rw [resolve, hlist, components_append_slash, List.foldl_append]
  rfl

/-- A slash at the end of a directory makes no difference. -/
lemma resolve_append (dir : String) (p : List Char)
    (hdir : dir = "" ∨ dir.toList.getLast? = some '/') :
    resolve (dir ++ String.ofList p) = (components p).foldl follow (resolve dir) := by
  rcases hdir with rfl | hlast
  · rw [String.empty_append, resolve, String.toList_ofList]
    rfl
  · obtain ⟨before, hbefore⟩ := List.getLast?_eq_some_iff.mp hlast
    have hwhole : (dir ++ String.ofList p).toList = before ++ '/' :: p := by
      rw [String.toList_append, String.toList_ofList, hbefore, List.append_assoc]
      rfl
    have hopen : components dir.toList = components before := by
      rw [hbefore, components_append_slash]
      exact List.append_nil _
    rw [resolve, hwhole, components_append_slash, List.foldl_append, resolve, hopen]

end Path

open DeviceFleet.Path

/-! ## Routes -/

/-- A route from any location: some levels up, and then down through directories. -/
structure Route where
  /-- The levels up. -/
  ups : ℕ
  /-- The names on the way down. -/
  down : List (List Char)
deriving DecidableEq

namespace Route

/-- The route with one more component. -/
def step (r : Route) (c : List Char) : Route :=
  if c = up then if r.down = [] then ⟨r.ups + 1, []⟩ else ⟨r.ups, r.down.dropLast⟩
  else ⟨r.ups, r.down ++ [c]⟩

/-- The route that components take. -/
def of (cs : List (List Char)) : Route := cs.foldl step ⟨0, []⟩

/-- Where the route leads from a location. -/
def arrive (r : Route) (location : List (List Char)) : List (List Char) :=
  location.take (location.length - r.ups) ++ r.down

/-- A further component leads on from where the route has led. -/
lemma follow_arrive (r : Route) (location : List (List Char)) (c : List Char) :
    follow (r.arrive location) c = (r.step c).arrive location := by
  obtain ⟨ups, down⟩ := r
  by_cases hc : c = up
  · rw [follow, if_pos hc, step, if_pos hc]
    by_cases hdown : down = []
    · -- the level above is still to be taken off the location
      subst hdown
      simp only [if_true, arrive, List.append_nil, List.dropLast_eq_take, List.length_take,
        List.take_take]
      congr 1
      omega
    · simp only [if_neg hdown, arrive]
      exact List.dropLast_append_of_ne_nil hdown
  · simp only [follow, if_neg hc, step, arrive, List.append_assoc]

lemma of_concat (cs : List (List Char)) (c : List Char) : of (cs ++ [c]) = (of cs).step c :=
  List.foldl_append

/-- **Components take the same route from every location.** -/
theorem foldl_follow (cs location : List (List Char)) :
    cs.foldl follow location = (of cs).arrive location := by
  induction cs using List.reverseRecOn with
  | nil => simp [of, arrive]
  | append_singleton cs c ih =>
    rw [List.foldl_append, ih, of_concat]
    exact follow_arrive _ location c

example : of (components "a/../../po//./b".toList) = ⟨1, ["po".toList, "b".toList]⟩ := by
  decide +kernel

/-- Names alone lead down. -/
lemma of_of_notMem (h : up ∉ cs) : of cs = ⟨0, cs⟩ := by
  induction cs using List.reverseRecOn with
  | nil => rfl
  | append_singleton cs c ih =>
    obtain ⟨hcs, hc⟩ : up ∉ cs ∧ c ≠ up := by
      simpa [not_or, eq_comm] using h
    rw [of_concat, ih hcs, step, if_neg hc]

/-- A route leads to the location or below it exactly if it goes down again through all that it has
left. -/
lemma prefix_arrive_iff (r : Route) (location : List (List Char)) :
    location <+: r.arrive location ↔
      location.drop (location.length - r.ups) <+: r.down := by
  have hsplit := List.take_append_drop (location.length - r.ups) location
  conv_lhs => lhs; rw [← hsplit]
  exact List.prefix_append_right_inj _

end Route

namespace Manifest

variable {content productOut path : String} {name : List Char}

/-! ## The paths of a list -/

/-- A name leads on from the directory of the target. -/
lemma resolve_join_of_isName (h : IsName name) (productOut : String) :
    resolve (Path.join productOut (String.ofList name)) =
      (Route.of (components name)).arrive (resolve productOut) := by
  rw [join_of_isName h, ← Route.foldl_follow]
  by_cases hopen : productOut = "" ∨ productOut.toList.getLast? = some '/'
  · rw [if_pos hopen, String.append_empty, resolve_append _ _ hopen]
  · rw [if_neg hopen, resolve_append_slash]

/-- A path is that of a name, and where the name leads from the directory of the target. -/
structure Leads (productOut : String) (name : List Char) (path : String) : Prop where
  /-- The path is the name, joined to the directory. -/
  joined : path = Path.join productOut (String.ofList name)
  /-- It takes the route of the components of the name. -/
  resolved : resolve path = (Route.of (components name)).arrive (resolve productOut)
  /-- It stays below the directory exactly if that route comes back to it. -/
  within_iff : Within productOut path ↔
    (resolve productOut).drop ((resolve productOut).length - (Route.of (components name)).ups) <+:
      (Route.of (components name)).down
  /-- Without two dots it leads down from the directory. -/
  below : up ∉ components name →
    resolve path = resolve productOut ++ components name ∧ Within productOut path

lemma leads_of_isName (h : IsName name) (productOut : String) :
    Leads productOut name (Path.join productOut (String.ofList name)) := by
  have hresolved := resolve_join_of_isName h productOut
  refine ⟨rfl, hresolved, ?_, fun hnames => ?_⟩
  · rw [Within, hresolved]
    exact Route.prefix_arrive_iff _ _
  · rw [Route.of_of_notMem hnames] at hresolved
    have hdown : resolve (Path.join productOut (String.ofList name)) =
        resolve productOut ++ components name := by
      rw [hresolved, Route.arrive, Nat.sub_zero, List.take_length]
    refine ⟨hdown, ?_⟩
    rw [Within, hdown]
    exact List.prefix_append _ _

lemma exists_leads (h : path ∈ imagePaths content productOut) :
    ∃ name ∈ names (content.toList.splitOn '\n'), Leads productOut name path := by
  rw [imagePaths_eq] at h
  obtain ⟨name, hname, rfl⟩ := List.mem_map.mp h
  exact ⟨name, hname, leads_of_isName (isName_of_mem_names hname) productOut⟩

/-- **The route of a name tells whether its path stays below the directory.**  Every path of a list
is that of a name in it, and leads from the directory of the target as the components of the name
do: so many levels up and then down.  It is at or below the directory exactly if the route goes down
again through all the levels that it went up, so in any case if no component is two dots.  The files
that are staged are such paths, and the packed host package. -/
theorem resolve_imagePaths (content productOut : String) :
    (∀ path ∈ imagePaths content productOut,
      ∃ name ∈ names (content.toList.splitOn '\n'), Leads productOut name path) ∧
    ∀ fs env files, fs.text (Staging.manifestPath env) = .ok content → env.productOut = productOut →
      Staging.stage fs env = .ok files → ∀ file ∈ files, file = HostPackage.archive env.hostOut ∨
        ∃ name ∈ names (content.toList.splitOn '\n'), Leads productOut name file := by
  refine ⟨fun path => exists_leads, ?_⟩
  rintro fs env files htext rfl hstage file hfile
  obtain ⟨read, packed, changed, hpasses, rfl⟩ := Staging.stage_eq_ok_iff.mp hstage
  obtain rfl : content = read := Except.ok.inj (htext.symm.trans hpasses.manifest)
  rcases List.mem_append.mp hfile with himage | harchive
  · exact .inr (exists_leads himage)
  · exact .inl (List.mem_singleton.mp harchive)

/-- A list with a name that leaves the directory, one that comes back, and one that does not leave
it. -/
def dotted : String := "../secret\n/..//./po/x.img\na/../b.img\n"

/-- A file system in which every file is the list. -/
def listed (content : String) : FileSystem where
  bytes _ := .ok content.toUTF8
  modified _ := .ok ⟨0, 0⟩
  entries _ := .ok []

/-- A build environment for the target. -/
def targetAt (productOut : String) : BuildEnvironment := ⟨"/top", productOut, "/host"⟩

lemma stage_listed (content productOut : String) :
    Staging.stage (listed content) (targetAt productOut) =
      .ok (imagePaths content productOut ++ [HostPackage.archive "/host"]) :=
  Staging.stage_eq_ok_iff.mpr
    ⟨content, ⟨0, 0⟩, ⟨0, 0⟩, ⟨FileSystem.text_of_bytes rfl, rfl, rfl, Int.le_refl _⟩, rfl⟩

/-- The second name comes back to where it started, and the first does not. -/
theorem resolve_imagePaths_dotted :
    imagePaths dotted "/po" = ["/po/../secret", "/po/..//./po/x.img", "/po/a/../b.img"] ∧
    (imagePaths dotted "/po").map (decide <| Within "/po" ·) = [false, true, true] ∧
    (∃ name ∈ names (dotted.toList.splitOn '\n'), Leads "/po" name "/po/..//./po/x.img") ∧
    ∀ file ∈ imagePaths dotted "/po" ++ [HostPackage.archive "/host"],
      file = HostPackage.archive "/host" ∨
        ∃ name ∈ names (dotted.toList.splitOn '\n'), Leads "/po" name file := by
  have hpaths : imagePaths dotted "/po" =
      ["/po/../secret", "/po/..//./po/x.img", "/po/a/../b.img"] := by decide +kernel
  obtain ⟨hlist, hstaged⟩ := resolve_imagePaths dotted "/po"
  refine ⟨hpaths, by decide +kernel, hlist _ ?_, ?_⟩
  · rw [hpaths]
    decide
  · exact hstaged (listed dotted) (targetAt "/po") _ (FileSystem.text_of_bytes rfl) rfl
      (stage_listed dotted "/po")

/-- **Not every path of a list stays below an absolute directory without dots**, nor does every file
that is staged: two dots at the start of a line lead out of it. -/
theorem not_forall_within :
    (¬ ∀ content productOut path, Path.isAbsolute productOut = true →
      (∀ c ∈ productOut.toList.splitOn '/', c ≠ ['.'] ∧ c ≠ up) →
        path ∈ imagePaths content productOut → Within productOut path) ∧
    ¬ ∀ fs env files, Path.isAbsolute env.productOut = true →
      (∀ c ∈ env.productOut.toList.splitOn '/', c ≠ ['.'] ∧ c ≠ up) →
        Staging.stage fs env = .ok files →
          ∀ file ∈ files, file = HostPackage.archive env.hostOut ∨ Within env.productOut file := by
  have hmem : "/po/../secret" ∈ imagePaths "../secret\n" "/po" := by decide +kernel
  have hout : ¬ Within "/po" "/po/../secret" := by decide +kernel
  have hplain : ∀ c ∈ "/po".toList.splitOn '/', c ≠ ['.'] ∧ c ≠ up := by decide +kernel
  refine ⟨fun h => hout (h _ "/po" _ (by decide) hplain hmem), fun h => ?_⟩
  have hfile := h _ (targetAt "/po") _ (by decide) hplain (stage_listed "../secret\n" "/po") _
    (List.mem_append_left _ hmem)
  exact hfile.elim (by decide +kernel) hout

end Manifest

end DeviceFleet
