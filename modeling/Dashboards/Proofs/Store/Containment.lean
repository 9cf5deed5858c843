import Dashboards.Files.Tree
import Dashboards.Proofs.Files.Path
import Dashboards.Proofs.Store.Agreement
import Dashboards.Proofs.Store.Listing
import Mathlib

/-!
# Where a store in a folder reaches

What a store reads and changes is named after keys, whatever uuids it is asked about and whatever its
files hold.

* `OwnName` : the names that a store gives to files; `OwnName.plain` : each is that of an entry of the
  folder;
* `Taken`, `shown` : steps with their replies, and the names that these have listed;
* `Permitted` : a step on the store's own files, or one that reads a file that was listed;
  `Contained` : a program of such steps only, whatever the replies (`Contained.bind`,
  `answer_contained`);
* `Asks` : the steps that a program comes to (`Contained.asks`);
* `touched` : the paths of a step; `Reached` : those of a permitted one (`Permitted.reached`);
* `Contained.frame` : what such a program leaves alone;
* `answer_of_not_key` : a uuid that is no key leads to no step at all;
* `access_is_contained` : all of this for every request; `making_reaches_above` : folders above the
  root are made with it.
-/

namespace Dashboards.Store.Directory

open Files (Folder Fault)

variable {α β : Type} {root : String}

/-! ## Names -/

/-- The names that a store gives to files. -/
inductive OwnName : String → Prop where
  | record {uuid : String} : isKey uuid → OwnName (recordName uuid)
  | draft {uuid : String} : isKey uuid → OwnName (draftName uuid)

theorem slashless_of_isKey {uuid : String} (h : isKey uuid) : '/' ∉ uuid.toList := by
  intro hmem
  rw [isKey, Bool.and_eq_true] at h
  exact absurd (List.all_eq_true.mp h.2 '/' hmem) (by decide)

theorem plain_of_isKey {uuid ending : String} (hkey : isKey uuid) (hslash : '/' ∉ ending.toList)
    (hlong : 2 < ending.length) : Files.PlainName (uuid ++ ending) := by
  have hlength : 2 < (uuid ++ ending).length := by
    rw [String.length_append]
    omega
  refine ⟨?_, ?_, ?_, ?_⟩
  · rw [String.toList_append, List.mem_append, not_or]
    exact ⟨slashless_of_isKey hkey, hslash⟩
  all_goals
    intro h
    rw [h] at hlength
    exact absurd hlength (by decide)

theorem OwnName.plain {name : String} (h : OwnName name) : Files.PlainName name := by
  cases h with
  | record hkey => exact plain_of_isKey hkey (by decide) (by decide)
  | draft hkey => exact plain_of_isKey hkey (by decide) (by decide)

theorem draftName_injective {uuid other : String} (h : draftName uuid = draftName other) : uuid = other := by
  have := congrArg String.toList h
  simp only [draftName, String.toList_append] at this
  exact String.toList_inj.mp (List.append_cancel_right this)

/-! ## Steps -/

/-- A step with the reply to it. -/
structure Taken where
  request : Files.Request
  reply : Files.Reply request

/-- The names that the step has listed. -/
def Taken.shown : Taken → List String
  | ⟨.list, .ok names⟩ => names
  | _ => []

/-- The names that some steps have listed. -/
def shown (before : List Taken) : List String := before.flatMap Taken.shown

/-- The folder is made and listed. Files under the store's own names are read, written, moved, removed
and looked for; other files are read only, after they were listed, and if they may be records. -/
inductive Permitted (names : List String) : Files.Request → Prop where
  | make : Permitted names .make
  | list : Permitted names .list
  | read {name : String} : OwnName name → Permitted names (.read name)
  | readListed {name : String} : name ∈ names → Files.hasExtension "json" name → Permitted names (.read name)
  | probe {name : String} : OwnName name → Permitted names (.probe name)
  | write {name : String} (content : ByteArray) : OwnName name → Permitted names (.write name content)
  | rename {source target : String} : OwnName source → OwnName target → Permitted names (.rename source target)
  | remove {name : String} : OwnName name → Permitted names (.remove name)

/-- Whatever is replied, the program asks permitted steps only. -/
def Contained (names : List String) : Program Files.Reply α → Prop
  | .done _ => True
  | .ask q next => Permitted names q ∧ ∀ reply, Contained (names ++ Taken.shown ⟨q, reply⟩) (next reply)

theorem Permitted.mono {names names' : List String} (hsub : names ⊆ names') {q : Files.Request}
    (h : Permitted names q) : Permitted names' q := by
  cases h with
  | make => exact .make
  | list => exact .list
  | read hname => exact .read hname
  | readListed hlisted hjson => exact .readListed (hsub hlisted) hjson
  | probe hname => exact .probe hname
  | write content hname => exact .write content hname
  | rename hsource htarget => exact .rename hsource htarget
  | remove hname => exact .remove hname

namespace Contained

variable {names names' : List String}

theorem mono {p : Program Files.Reply α} (hsub : names ⊆ names') (h : Contained names p) : Contained names' p := by
  induction p generalizing names names' with
  | done a => trivial
  | ask q next ih =>
    refine ⟨h.1.mono hsub, fun reply => ih reply ?_ (h.2 reply)⟩
    exact List.append_subset.mpr ⟨List.Subset.trans hsub (List.subset_append_left _ _), List.subset_append_right _ _⟩

theorem bind {p : Steps α} {f : Except StoreFailure α → Steps β} (hp : Contained names p)
    (hf : ∀ a, Contained names (f a)) : Contained names (p.bind f) := by
  induction p generalizing names with
  | done a => exact hf a
  | ask q next ih =>
    refine ⟨hp.1, fun reply => ih reply (hp.2 reply) fun a => ?_⟩
    exact (hf a).mono (List.subset_append_left _ _)

theorem step {path : String} {q : Files.Request} {reply : Files.Reply q → Except Fault α} {next : α → Steps β}
    (hq : Permitted names q) (hnext : ∀ a, Contained names (next a)) :
    Contained names (Directory.step path q reply next) := by
  refine ⟨hq, fun r => ?_⟩
  dsimp only
  cases reply r with
  | error fault => trivial
  | ok a => exact (hnext a).mono (List.subset_append_left _ _)

theorem withKey {uuid : String} {next : Steps α} (h : isKey uuid → Contained names next) :
    Contained names (Directory.withKey uuid next) := by
  unfold Directory.withKey
  split_ifs with hkey
  · exact h hkey
  · trivial

end Contained

/-! ## Requests -/

section Requests

variable {names : List String} {uuid : String}

theorem readRecord_contained {name : String} (h : Permitted names (.read name)) :
    Contained names (readRecord root name) := Contained.step h fun _ => trivial

theorem readEach_contained {files : List String}
    (h : ∀ name ∈ files, name ∈ names ∧ Files.hasExtension "json" name) : Contained names (readEach root files) := by
  induction files with
  | nil => trivial
  | cons name rest ih =>
    obtain ⟨hlisted, hjson⟩ := h name List.mem_cons_self
    have hrest := ih fun other hother => h other (List.mem_cons_of_mem _ hother)
    refine Contained.bind (readRecord_contained (.readListed hlisted hjson)) fun outcome => ?_
    cases outcome with
    | ok found => exact Contained.bind hrest fun outcome => by cases outcome <;> trivial
    | error failure =>
      cases failure with
      | corrupt _ => exact hrest
      | _ => trivial

/-- The files that are read were listed, if no key names them. -/
theorem readAll_contained : Contained names (readAll root) := by
  refine ⟨.list, fun reply => ?_⟩
  cases reply with
  | ok files =>
    change Contained (names ++ files) ((readEach root (files.filter (Files.hasExtension "json"))).bind _)
    refine Contained.bind (readEach_contained fun name hname => ?_) fun outcome => by cases outcome <;> trivial
    obtain ⟨hmem, hjson⟩ := List.mem_filter.mp hname
    exact ⟨List.mem_append_right _ hmem, hjson⟩
  | error fault =>
    cases fault with
    | notFound =>
      -- a missing folder counts as an empty one
      change Contained _ ((readEach root []).bind _)
      exact Contained.bind (readEach_contained fun _ h => absurd h List.not_mem_nil) fun outcome => by
        cases outcome <;> trivial
    | _ => trivial

theorem fetchOne_contained : Contained names (fetchOne root uuid) :=
  Contained.withKey fun hkey => readRecord_contained (.read (.record hkey))

/-- The uuid that a record carries is checked like any other. -/
theorem writeRecord_contained {record : Record} : Contained names (writeRecord root record) :=
  Contained.withKey fun hkey =>
    Contained.step .make fun _ => Contained.step (.write _ (.draft hkey)) fun _ =>
      Contained.step (.rename (.draft hkey) (.record hkey)) fun _ => trivial

theorem modify_contained {change : Record → Record} : Contained names (modify root uuid change) := by
  refine Contained.bind fetchOne_contained fun outcome => ?_
  rcases outcome with failure | _ | record
  · trivial
  · trivial
  · exact Contained.bind writeRecord_contained fun _ => trivial

theorem insert_contained {record : Record} : Contained names (insert root record) := by
  refine Contained.withKey fun hkey => Contained.step (.probe (.record hkey)) fun taken => ?_
  split_ifs
  · trivial
  · refine Contained.bind readAll_contained fun outcome => ?_
    cases outcome with
    | error failure => trivial
    | ok records => exact Contained.bind writeRecord_contained fun _ => trivial

theorem delete_contained : Contained names (delete root uuid) :=
  Contained.withKey fun hkey => Contained.step (.remove (.record hkey)) fun _ => trivial

theorem answer_contained (q : Request) : Contained names (answer root q) := by
  cases q with
  | fetchAll => exact readAll_contained
  | fetchOne uuid => exact fetchOne_contained
  | insert record => exact insert_contained
  | update record => exact modify_contained
  | delete uuid => exact delete_contained
  | setLocked uuid locked => exact modify_contained

end Requests

/-! ## What programs come to -/

/-- After these steps the program asks that request. -/
inductive Asks : Program Files.Reply α → List Taken → Files.Request → Prop where
  | first {q : Files.Request} {next : Files.Reply q → Program Files.Reply α} : Asks (.ask q next) [] q
  | later {q q' : Files.Request} {next : Files.Reply q → Program Files.Reply α} {reply : Files.Reply q}
      {before : List Taken} : Asks (next reply) before q' → Asks (.ask q next) (⟨q, reply⟩ :: before) q'

/-- It is permitted by what was listed until then. -/
theorem Contained.asks {p : Program Files.Reply α} {names : List String} {before : List Taken} {q : Files.Request}
    (h : Contained names p) (hasks : Asks p before q) : Permitted (names ++ shown before) q := by
  induction hasks generalizing names with
  | first => exact h.1.mono (List.subset_append_left _ _)
  | @later q q' next reply before _ ih =>
    have hlater := ih (h.2 reply)
    rwa [List.append_assoc] at hlater

/-- The paths that a step is about. A folder is made together with those that hold it, where they are
missing, and `Files.makeWithHolders` looks at no others. -/
def touched (root : String) : Files.Request → List String
  | .make => Files.holders root
  | q => q.paths root

/-- Where a step may reach if some names were listed: the folder, its own files in it, a listed file
that is read; and where the folder is made, those that hold it. -/
inductive Reached (root : String) (names : List String) : Files.Request → String → Prop where
  | root {q : Files.Request} : Reached root names q root
  | holder {path : String} : path ∈ Files.holders root → Reached root names .make path
  | own {q : Files.Request} {name : String} : OwnName name → Reached root names q (Files.join root name)
  | listed {name : String} : name ∈ names → Files.hasExtension "json" name →
      Reached root names (.read name) (Files.join root name)

theorem Permitted.reached {names : List String} {q : Files.Request} (h : Permitted names q) {path : String}
    (hpath : path ∈ touched root q) : Reached root names q path := by
  cases h with
  | make => exact .holder hpath
  | list =>
    obtain rfl := List.mem_singleton.mp hpath
    exact .root
  | readListed hlisted hjson =>
    obtain rfl := List.mem_singleton.mp hpath
    exact .listed hlisted hjson
  | rename hsource htarget =>
    rcases List.mem_pair.mp hpath with rfl | rfl
    · exact .own hsource
    · exact .own htarget
  | read hname | probe hname | write _ hname | remove hname =>
    obtain rfl := List.mem_singleton.mp hpath
    exact .own hname

/-! ## What is left alone -/

section Frame

variable {folder : Folder} {names : List String} {name : String}

theorem node?_mapEntries {f : Files.Entries → Files.Entries}
    (h : ∀ entries : Files.Entries, (f entries).find? name = entries.find? name) :
    (folder.mapEntries f).node? name = folder.node? name := by
  cases folder with
  | present entries => exact h entries
  | _ => rfl

theorem Permitted.frame {q : Files.Request} (h : Permitted names q) (hname : ¬OwnName name) :
    (Folder.answer q folder).2.node? name = folder.node? name := by
  have hne : ∀ {other}, OwnName other → name ≠ other := fun hother heq => hname (heq ▸ hother)
  cases h with
  | make => cases folder <;> rfl
  | list => cases folder <;> rfl
  | read _ => rfl
  | readListed _ _ => rfl
  | probe _ => rfl
  | write content hown =>
    rw [Folder.answer_write_eq]
    split
    · exact node?_mapEntries fun _ => Files.Entries.find?_set_of_ne (hne hown)
    · rfl
  | rename hsource htarget =>
    simp only [Folder.answer]
    split
    case h_5 =>
      apply node?_mapEntries
      intro entries
      rw [Files.Entries.find?_set_of_ne (hne htarget), Files.Entries.find?_erase_of_ne (hne hsource)]
    all_goals rfl
  | @remove other hown =>
    rcases Folder.answer_remove_eq folder other with ⟨fault, hremove⟩ | ⟨entries, rfl, hremove⟩
    · rw [hremove]
    · rw [hremove]
      exact Files.Entries.find?_erase_of_ne (hne hown)

/-- Every other entry stays as it is. -/
theorem Contained.frame {p : Program Files.Reply α} (h : Contained names p) (hname : ¬OwnName name) :
    (p.run Folder.answer folder).2.node? name = folder.node? name := by
  induction p generalizing folder names with
  | done a => rfl
  | ask q next ih =>
    rw [Program.run_ask, ih _ (h.2 _)]
    exact h.1.frame hname

end Frame

/-! ## Uuids that are no keys -/

/-- The reply that a request failed. -/
def refusal (failure : StoreFailure) : (q : Request) → Reply q
  | .fetchAll => .error failure
  | .fetchOne _ => .error failure
  | .insert _ => .error failure
  | .update _ => .error failure
  | .delete _ => .error failure
  | .setLocked _ _ => .error failure

/-- No file is named after such a uuid, and none is looked for. -/
theorem answer_of_not_key {q : Request} {uuid : String} (huuid : q.uuid? = some uuid) (hkey : ¬isKey uuid) :
    answer root q = .done (refusal (.invalidKey uuid) q) := by
  have hrefused : ∀ {γ : Type} (next : Steps γ), withKey uuid next = .done (.error (.invalidKey uuid)) :=
    fun next => if_neg hkey
  cases q with
  | fetchAll => cases huuid
  | fetchOne _ | insert _ | delete _ =>
    obtain rfl := Option.some.inj huuid
    exact hrefused _
  | update _ | setLocked _ _ =>
    obtain rfl := Option.some.inj huuid
    rw [answer, modify, fetchOne, hrefused]
    rfl

/-! ## Every request -/

/-- Whatever uuid a request is about, and whatever its steps are replied, it reaches nothing but the
folder, files in it that are named after keys, and the files that it listed, which are only read; a
folder that is missing is made together with those that hold it. All other entries stay as they are. A
uuid that is no key leads nowhere. Files of different keys have different paths, and the paths of
drafts are none of records; each is that of an entry of the folder. -/
theorem access_is_contained (root : String) (q : Request) :
    (∀ before step, Asks (answer root q) before step →
      ∀ path ∈ touched root step, Reached root (shown before) step path) ∧
    (∀ folder name, ¬OwnName name → (handle root q folder).2.node? name = folder.node? name) ∧
    (∀ uuid, q.uuid? = some uuid → ¬isKey uuid → answer root q = .done (refusal (.invalidKey uuid) q)) ∧
    (∀ uuid other, uuid ≠ other →
      Files.join root (recordName uuid) ≠ Files.join root (recordName other) ∧
      Files.join root (draftName uuid) ≠ Files.join root (draftName other)) ∧
    (∀ uuid other, Files.join root (draftName uuid) ≠ Files.join root (recordName other)) ∧
    ∀ name, OwnName name → Files.PlainName name ∧
      Files.split (Files.join root name) = (Files.join root "", name) := by
  have hcontained : Contained [] (answer root q) := answer_contained q
  refine ⟨?_, ?_, ?_, ?_, ?_, ?_⟩
  · intro before step hasks path hpath
    exact (hcontained.asks hasks).reached hpath
  · intro folder name hname
    exact hcontained.frame hname
  · intro uuid huuid hkey
    exact answer_of_not_key huuid hkey
  · intro uuid other hne
    constructor
    · exact fun h => hne (recordName_injective (Files.join_injective h))
    · exact fun h => hne (draftName_injective (Files.join_injective h))
  · intro uuid other h
    exact recordName_ne_draftName other uuid (Files.join_injective h).symm
  · intro name hname
    exact ⟨hname.plain, Files.split_join root hname.plain.slashless⟩

/-! ## A root in a folder that is missing -/

section Missing

open Files (Tree)

/-- Nothing is there. -/
def bare : Tree := ⟨[], []⟩

/-- The root `/a/b` is there, and the folder above it. -/
def nestedWith (entries : Files.Entries) : Tree := ⟨[("a", .folder [("b", .folder entries)])], []⟩

theorem walk_of_split {path : String} {names : List String} (t : Tree) (habsolute : Files.isAbsolute path = true)
    (hsplit : path.splitOn "/" = names) : t.walk path = names.foldlM t.enter [] := by
  rw [Tree.walk, if_pos habsolute, hsplit]

theorem walk_root (t : Tree) : t.walk "/a/b" = ["", "a", "b"].foldlM t.enter [] :=
  walk_of_split t (by cbv) (by cbv)

theorem join_root (name : String) : Files.join "/a/b" name = "/a/b/" ++ name := by
  rw [Files.join, if_neg (by cbv; decide)]
  rfl

/-- The folder above is made, and then the root. -/
theorem make_bare : Tree.answer "/a/b" .make bare = (.ok (), nestedWith []) := by
  have hmissing : Tree.make "/a/b" bare = (.error .notFound, bare) := by
    unfold Tree.make
    dsimp only
    rw [show Files.Place.ofPath "/a/b" = ⟨"/a/", "b", false⟩ from rfl, walk_of_split _ (by cbv) (by cbv)]
    rfl
  have habove : Tree.make "/a" bare = (.ok (), ⟨[("a", .folder [])], []⟩) := by
    unfold Tree.make
    dsimp only
    rw [show Files.Place.ofPath "/a" = ⟨"/", "a", false⟩ from rfl, walk_of_split _ (by cbv) (by cbv)]
    rfl
  have hroot : Tree.make "/a/b" ⟨[("a", .folder [])], []⟩ = (.ok (), nestedWith []) := by
    unfold Tree.make
    dsimp only
    rw [show Files.Place.ofPath "/a/b" = ⟨"/a/", "b", false⟩ from rfl, walk_of_split _ (by cbv) (by cbv)]
    rfl
  unfold Tree.answer Tree.makeAll Files.makeWithHolders
  rw [show Files.holders "/a/b" = ["/a/b", "/a", "/"] by cbv]
  simp only [Files.makeFirst, Files.makeFirst.settle, StateT.run, bind, StateT.bind, hmissing, habove, hroot, pure,
    StateT.pure]

theorem insert_bare : (answer "/a/b" (.insert someRecord)).run (Tree.answer "/a/b") bare =
    (.ok 1, nestedWith [("u.json", .file (Record.encode { someRecord with id := 1 }).toUTF8)]) := by
  have hprobe : Tree.answer "/a/b" (.probe "u.json") bare = (.ok false, bare) := by
    simp only [Tree.answer, walk_root, Files.Request.paths, join_root]
    rfl
  have hlist : Tree.answer "/a/b" .list bare = (.error .notFound, bare) := by
    simp only [Tree.answer, walk_root]
    rfl
  have hwrite : ∀ content, Tree.answer "/a/b" (.write "u.tmp" content) (nestedWith []) =
      (.ok (), nestedWith [("u.tmp", .file content)]) := by
    intro content
    simp only [Tree.answer, walk_root, Files.Request.paths, join_root]
    rfl
  have hrename : ∀ content, Tree.answer "/a/b" (.rename "u.tmp" "u.json") (nestedWith [("u.tmp", .file content)]) =
      (.ok (), nestedWith [("u.json", .file content)]) := by
    intro content
    simp only [Tree.answer, walk_root, Files.Request.paths, join_root]
    rfl
  rw [answer, Directory.insert, withKey, if_pos (by decide), step, Program.run_ask,
    show recordName someRecord.uuid = "u.json" from rfl, hprobe]
  change (Program.ask Files.Request.list _ : Program Files.Reply _).run _ _ = _
  rw [Program.run_ask, hlist]
  change (Program.ask Files.Request.make _ : Program Files.Reply _).run _ _ = _
  rw [Program.run_ask, make_bare]
  change (Program.ask (Files.Request.write "u.tmp" _) _ : Program Files.Reply _).run _ _ = _
  rw [Program.run_ask, hwrite]
  change (Program.ask (Files.Request.rename "u.tmp" "u.json") _ : Program Files.Reply _).run _ _ = _
  rw [Program.run_ask, hrename]
  rfl

/-- With the first record the folder above the root is made, which is neither the root nor in it. -/
theorem making_reaches_above :
    bare.top.nodeAt? ["a"] = none ∧
    ((answer "/a/b" (.insert someRecord)).run (Tree.answer "/a/b") bare).1 = .ok 1 ∧
    (((answer "/a/b" (.insert someRecord)).run (Tree.answer "/a/b") bare).2.top.nodeAt? ["a"]).isSome ∧
    "/a" ≠ "/a/b" ∧ ∀ name, "/a" ≠ Files.join "/a/b" name := by
  rw [insert_bare]
  refine ⟨rfl, rfl, rfl, by decide, ?_⟩
  intro name h
  have := congrArg String.length h
  rw [join_root, String.length_append] at this
  change 2 = 5 + _ at this
  omega

end Missing

end Dashboards.Store.Directory
