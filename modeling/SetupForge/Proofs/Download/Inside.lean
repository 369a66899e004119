import SetupForge.Proofs.Download.Failing
import SetupForge.Proofs.Path.Names

/-! # Where a download without a given name goes

A name that comes from an address is the name of a file in the folder of the download. A name that
comes from a header is taken as a path, seen from the folder. So long as it leads to something
directly in the folder, only files directly in the folder change, and the download is one of them.
-/

namespace SetupForge.Download

def headerName? (response : Response) : Option String :=
  nameOfDisposition? ((response.header? "Content-Disposition").getD "")

/-- Whether a name, seen from a folder, is the name of something directly in it. -/
def NamesChild (folder : Path) (name : String) : Prop :=
  ∃ own, folder.join (Path.ofString name) = folder.child own

/-- Whether a location is directly in a folder. -/
def IsDirectlyIn (place location : Location) : Prop := ∃ name, location = place ++ [name]

/-! ## Names -/

theorem ofString_of_nameOfAddress {address name : String} (h : nameOfAddress address = .ok name) :
    Path.ofString name = ⟨.current, [name]⟩ := by
  unfold nameOfAddress Address.fileName? at h
  cases hread : Address.read? [] address.toList with
  | none =>
      rw [hread] at h
      cases h
  | some parts =>
      rw [hread] at h
      obtain rfl : parts.fileName = name := Except.ok.inj h
      unfold Address.fileName
      dsimp only
      split
      · decide
      · rename_i hname
        apply Path.ofString_fileName
        simpa using hname

theorem namesChild_of_ofString {folder : Path} {name : String}
    (h : Path.ofString name = ⟨.current, [name]⟩) : NamesChild folder name := by
  refine ⟨name, ?_⟩
  rw [h, Path.join, if_neg (by simp [Path.isAbsolute])]
  rfl

/-- A name for a download leads into its folder if none comes from a header, or if that one does. -/
theorem namesChild_of_nameFor {folder : Path} {response : Response} {name : String}
    (hheader : ∀ given, headerName? response = some given → NamesChild folder given)
    (hname : nameFor none response = .ok name) : NamesChild folder name := by
  have hown : nameOf response = .ok name := hname
  unfold nameOf at hown
  split at hown
  · rename_i given hgiven
    rw [Except.ok.injEq] at hown
    exact hown ▸ hheader given hgiven
  · exact namesChild_of_ofString (ofString_of_nameOfAddress hown)

theorem nameFor_of_headerName? {response : Response} {given : String}
    (h : headerName? response = some given) : nameFor none response = .ok given := by
  show nameOf response = .ok given
  rw [headerName?] at h
  rw [nameOf, h]

/-! ## Locations -/

section Locations

variable {folder : Path} {disk : Disk} {place : Location} {name : String}

theorem location_child_of_ne (h : name ≠ "..") :
    (folder.child name).location place = folder.location place ++ [name] := by
  rw [Path.location_child, Disk.enter, if_neg h]

theorem isDirectlyIn_partialPath :
    IsDirectlyIn (folder.location place) ((partialPath (folder.child name)).location place) := by
  rw [location_partialPath, Path.parent_child]
  exact ⟨_, rfl⟩

/-- What is no folder, but stands in one beside the partial file, is no way up. -/
theorem ne_up_of_opens (htree : disk.IsTree)
    (hopens : Opens disk place (partialPath (folder.child name)))
    (hfree : disk.node? ((folder.child name).location place) ≠ some .folder) : name ≠ ".." := by
  rintro rfl
  have hroom := hopens.room
  rw [location_partialPath, Path.parent_child, List.dropLast_concat] at hroom
  apply hfree
  rw [Path.location_child, Disk.enter, if_pos rfl]
  exact htree _ _ hroom

end Locations

/-! ## Downloads -/

section Downloads

variable {host : Host} {url : String} {folder : Path} {expected : Option String}

/-- A response is saved to a file in the folder, and no other file changes but its partial file,
which is in the folder too. -/
theorem inside_of_receipt {response : Response} {disk after : Disk} {place : Location}
    {name : String} {result : Except Failure SavedFile} (htree : disk.IsTree)
    (h : Receipt url response expected (folder.child name) place disk result after) :
    (∀ saved, result = .ok saved → name ≠ ".." ∧ saved.path = folder.child name ∧
        (after.content? (folder.location place ++ [name])).isSome) ∧
      ∀ location, ¬ IsDirectlyIn (folder.location place) location →
        after.content? location = disk.content? location := by
  have hpart : ∀ location, ¬ IsDirectlyIn (folder.location place) location →
      location ≠ (partialPath (folder.child name)).location place := by
    rintro location hout rfl
    exact hout isDirectlyIn_partialPath
  have htarget : name ≠ ".." → ∀ location, ¬ IsDirectlyIn (folder.location place) location →
      location ≠ (folder.child name).location place := by
    rintro hname location hout rfl
    exact hout ⟨name, location_child_of_ne hname⟩
  cases h with
  | refused hfailure => exact ⟨by simp, fun _ _ => rfl⟩
  | interrupted hbody hopens hcontents =>
      refine ⟨by simp, fun location hout => ?_⟩
      rw [hcontents, Function.update_of_ne (hpart location hout)]
  | stuck hfailure hbody hopens hcontents =>
      refine ⟨by simp, fun location hout => ?_⟩
      rw [hcontents, Function.update_of_ne (hpart location hout)]
  | wrong hbody hopens hwanted hfree hcontents =>
      have hname := ne_up_of_opens htree hopens hfree
      refine ⟨by simp, fun location hout => ?_⟩
      rw [hcontents, Function.update_of_ne (htarget hname location hout),
        Function.update_of_ne (hpart location hout)]
  | saved hbody hopens hwanted hfree hlocate hcontents =>
      have hname := ne_up_of_opens htree hopens hfree
      refine ⟨fun saved hsaved => ?_, fun location hout => ?_⟩
      · rw [← Except.ok.inj hsaved, ← location_child_of_ne hname, hcontents,
          Function.update_self]
        exact ⟨hname, rfl, rfl⟩
      · rw [hcontents, Function.update_of_ne (htarget hname location hout),
          Function.update_of_ne (hpart location hout)]

theorem path_of_receipt {response : Response} {target : Path} {disk after : Disk}
    {place : Location} {saved : SavedFile}
    (h : Receipt url response expected target place disk (.ok saved) after) :
    saved.path = target := by
  cases h
  rfl

/-- Whether the header of what servers answer, if it gives a name, gives that of something directly
in a folder. -/
def HeaderNamesChild (web : List (String × Reply)) (url : String) (folder : Path) : Prop :=
  ∀ response given, answerOf web url = .ok (.ok response) → headerName? response = some given →
    NamesChild folder given

/-- If the header names something directly in the folder or nothing, the download stays in the
folder: what it saves is a file directly there, and no file elsewhere changes. A download that
succeeds saves to something directly in the folder in no other case. -/
theorem stays_inside (htree : host.disk.IsTree)
    (hfolder : host.disk.node? host.folder = some .folder) :
    let run := (file url folder none expected).on host
    (HeaderNamesChild host.web url folder →
      (∀ saved, run.1 = .ok saved → ∃ name, name ≠ ".." ∧ saved.path = folder.child name ∧
          (run.2.disk.content? (folder.location host.folder ++ [name])).isSome) ∧
        ∀ location, ¬ IsDirectlyIn (folder.location host.folder) location →
          run.2.disk.content? location = host.disk.content? location) ∧
      ∀ saved, run.1 = .ok saved →
        ((∃ name, saved.path = folder.child name) ↔ HeaderNamesChild host.web url folder) := by
  intro run
  have hcourse : Course host.web url folder none expected host.folder host.disk run.1 run.2.disk :=
    course_file htree hfolder url folder none expected
  have hmade := Disk.content?_makeFolder host.disk host.folder folder
  have hmadeTree := Disk.isTree_makeFolder htree hfolder folder
  generalize run.1 = result at hcourse ⊢
  generalize run.2.disk = left at hcourse ⊢
  cases hcourse with
  | refused hfailure hafter =>
      refine ⟨fun _ => ⟨by simp, fun location _ => ?_⟩, by simp⟩
      rcases hafter with rfl | rfl
      · rfl
      · exact congrFun hmade location
  | failed hanswer => exact ⟨fun _ => ⟨by simp, fun location _ => congrFun hmade location⟩, by simp⟩
  | received husable hcomplete hanswer hname hreceipt =>
      rename_i response name
      constructor
      · intro hheader
        obtain ⟨own, hown⟩ :=
          namesChild_of_nameFor (fun given => hheader response given hanswer) hname
        rw [hown] at hreceipt
        obtain ⟨hsaved, hout⟩ := inside_of_receipt hmadeTree hreceipt
        refine ⟨fun saved hresult => ⟨own, hsaved saved hresult⟩, fun location hfar => ?_⟩
        rw [hout location hfar, hmade]
      · rintro saved rfl
        rw [path_of_receipt hreceipt]
        constructor
        · intro hinside other given hother hgiven
          obtain rfl : response = other := Except.ok.inj (Except.ok.inj (hanswer.symm.trans hother))
          obtain rfl : name = given :=
            Except.ok.inj (hname.symm.trans (nameFor_of_headerName? hgiven))
          exact hinside
        · intro hheader
          exact namesChild_of_nameFor (fun given => hheader response given hanswer) hname

end Downloads

/-- Notes are kept beside a folder, and a server sends a file with a header that names it. -/
def namedByHeader (header : String) : Host where
  disk := ⟨[(["dl"], .folder), (["notes.txt"], .file "mine".toUTF8.toList)]⟩
  web := [("http://h/x", .response 200 (some "OK") [("Content-Disposition", header)]
    "theirs".toUTF8.toList)]

theorem stays_inside_named :
    let host := namedByHeader "attachment; filename=\"notes.txt\""
    let run := (file "http://h/x" (Path.ofString "dl") none none).on host
    run.1 = .ok ⟨⟨.current, ["dl", "notes.txt"]⟩, Sha256.hex "theirs".toUTF8.toList⟩ ∧
      HeaderNamesChild host.web "http://h/x" (Path.ofString "dl") ∧
      run.2.disk.content? ["notes.txt"] = some "mine".toUTF8.toList := by
  intro host run
  have hresult : run.1 =
      .ok ⟨⟨.current, ["dl", "notes.txt"]⟩, Sha256.hex "theirs".toUTF8.toList⟩ := by decide +kernel
  have htree : host.disk.IsTree := Disk.isTree_of_nodes (by decide)
  obtain ⟨hstays, hsaved⟩ := @stays_inside host "http://h/x" (Path.ofString "dl") none htree rfl
  have hheader : HeaderNamesChild host.web "http://h/x" (Path.ofString "dl") :=
    (hsaved _ hresult).1 ⟨"notes.txt", rfl⟩
  refine ⟨hresult, hheader, ?_⟩
  have hout : ¬ IsDirectlyIn ((Path.ofString "dl").location host.folder) ["notes.txt"] := by
    rintro ⟨name, hname⟩
    have hlength : 1 = 2 := congrArg List.length hname
    omega
  rw [(hstays hheader).2 ["notes.txt"] hout]
  rfl

/-- A name that leads up and out of the folder is followed, and the file there is replaced. -/
theorem download_replaces_file_outside :
    let host := namedByHeader "attachment; filename=\"../notes.txt\""
    let run := (file "http://h/x" (Path.ofString "dl") none none).on host
    run.1 = .ok ⟨⟨.current, ["dl", "..", "notes.txt"]⟩, Sha256.hex "theirs".toUTF8.toList⟩ ∧
      ¬ IsDirectlyIn ((Path.ofString "dl").location host.folder) ["notes.txt"] ∧
      host.disk.content? ["notes.txt"] = some "mine".toUTF8.toList ∧
      run.2.disk.content? ["notes.txt"] = some "theirs".toUTF8.toList := by
  intro host run
  have hrun : (run.1, run.2.disk) =
      (.ok ⟨⟨.current, ["dl", "..", "notes.txt"]⟩, Sha256.hex "theirs".toUTF8.toList⟩,
        ⟨[(["dl"], .folder), (["notes.txt"], .file "theirs".toUTF8.toList)]⟩) := by decide +kernel
  obtain ⟨hresult, hdisk⟩ := Prod.mk.inj hrun
  refine ⟨hresult, ?_, rfl, by rw [hdisk]; rfl⟩
  rintro ⟨name, hname⟩
  have hlength : 1 = 2 := congrArg List.length hname
  omega

end SetupForge.Download
