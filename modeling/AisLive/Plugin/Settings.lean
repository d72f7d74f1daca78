/-
The settings and the configuration they are saved to.

`Settings` holds the variables every part of the plugin reads and writes; `Config` is
the plugin's section of OpenCPN's configuration, a value for each key that has been
written.  `saveSettings` and `loadSettings` go from one to the other.

All settings but the vessel list are written as they are.  The vessel list goes out as
two texts, the MMSIs and the names, each joined with commas, and comes back token by
token; a name is found by the index of its MMSI's token.
-/
import AisLive.Lib.Tokens
import AisLive.Real

namespace AisLive

/-- The variables of `global_settings.h`. -/
structure Settings (D : Type) [Double D] where
  restoreWindowSize : Bool := true
  windowWidth : Int := 0
  windowHeight : Int := 0
  restoreWindowPos : Bool := true
  windowPosX : Int := 0
  windowPosY : Int := 0
  keepWindowActive : Bool := true
  lastSearchBoxSize : D := Double.ofInt 1
  openWatersToken : WxString := []
  mmsiList : List Nat := []
  mmsiListNames : List WxString := []
  activateVesselsFollowing : Bool := true

/-- The section `/PlugIns/AisLivePlugin` of the configuration. -/
structure Config (D : Type) where
  restoreWindowSize : Option Bool := none
  windowWidth : Option Int := none
  windowHeight : Option Int := none
  restoreWindowPos : Option Bool := none
  windowPosX : Option Int := none
  windowPosY : Option Int := none
  keepWindowActive : Option Bool := none
  lastSearchBoxSize : Option D := none
  openWatersToken : Option WxString := none
  activateVesselsFollowing : Option Bool := none
  mmsiList : Option WxString := none
  mmsiListNames : Option WxString := none

/-- The smallest MMSI accepted. -/
def minMmsi : Nat := 100000000

/-- The largest MMSI accepted. -/
def maxMmsi : Nat := 999999999

/-- An MMSI the plugin accepts. -/
def validMmsi (mmsi : Nat) : Bool := minMmsi ≤ mmsi && mmsi ≤ maxMmsi

theorem validMmsi_iff {mmsi : Nat} : validMmsi mmsi = true ↔ minMmsi ≤ mmsi ∧ mmsi ≤ maxMmsi := by
  rw [validMmsi, Bool.and_eq_true, decide_eq_true_eq, decide_eq_true_eq]

/-! ### The vessel list as text -/

/-- `mmsiString` of `SaveSettings`. -/
def mmsiString (mmsiList : List Nat) : WxString :=
  mmsiList.foldl (fun text mmsi => (if text.isEmpty then text else text ++ [',']) ++ decimal mmsi)
    []

/-- `namesString` of `SaveSettings`. -/
def namesString (mmsiList : List Nat) (mmsiListNames : List WxString) : WxString :=
  (List.range mmsiList.length).foldl (fun text i =>
    (if 0 < i then text ++ [','] else text) ++ (mmsiListNames[i]?).getD []) []

/-- `wxStringTokenize(text, ",", wxTOKEN_RET_EMPTY_ALL)`. -/
def wxStringTokenize (text : WxString) : List WxString := Tokens.tokens ',' text

/-- The MMSI of one token of the list, when it is accepted. -/
def acceptedMmsi (token : WxString) : Option Nat :=
  match toULong token with
  | some value => if validMmsi value then some value else none
  | none => none

/-- The vessels `LoadSettings` reads from the two texts. -/
def readVessels (mmsiText namesText : WxString) : List (Nat × WxString) :=
  (wxStringTokenize mmsiText).zipIdx.filterMap fun (token, i) =>
    (acceptedMmsi token).map (·, ((wxStringTokenize namesText)[i]?).getD [])

/-! ### Saving and loading -/

section

variable {D : Type} [Double D]

/-- What `SaveSettings` writes. -/
def saveSettings (s : Settings D) : Config D where
  restoreWindowSize := some s.restoreWindowSize
  windowWidth := some s.windowWidth
  windowHeight := some s.windowHeight
  restoreWindowPos := some s.restoreWindowPos
  windowPosX := some s.windowPosX
  windowPosY := some s.windowPosY
  keepWindowActive := some s.keepWindowActive
  lastSearchBoxSize := some s.lastSearchBoxSize
  openWatersToken := some s.openWatersToken
  activateVesselsFollowing := some s.activateVesselsFollowing
  mmsiList := some (mmsiString s.mmsiList)
  mmsiListNames := some (namesString s.mmsiList s.mmsiListNames)

/-- `LoadSettings`, with the defaults it passes. -/
def loadSettings (c : Config D) : Settings D :=
  let vessels := readVessels (c.mmsiList.getD []) (c.mmsiListNames.getD [])
  { restoreWindowSize := c.restoreWindowSize.getD true
    windowWidth := c.windowWidth.getD 380
    windowHeight := c.windowHeight.getD 290
    restoreWindowPos := c.restoreWindowPos.getD true
    windowPosX := c.windowPosX.getD 0
    windowPosY := c.windowPosY.getD 0
    keepWindowActive := c.keepWindowActive.getD true
    lastSearchBoxSize := c.lastSearchBoxSize.getD (Double.ofInt 1)
    openWatersToken := c.openWatersToken.getD []
    activateVesselsFollowing := c.activateVesselsFollowing.getD true
    mmsiList := vessels.map Prod.fst
    mmsiListNames := vessels.map Prod.snd }

end

/-! ### What the texts are -/

theorem mmsiString_eq (mmsiList : List Nat) :
    mmsiString mmsiList = [','].intercalate (mmsiList.map decimal) := by
  rw [← Tokens.foldl_append_parts ',' (by simp [decimal_ne_nil]), List.foldl_map]
  rfl

theorem namesString_eq {mmsiList : List Nat} {names : List WxString}
    (hlen : mmsiList.length = names.length) :
    namesString mmsiList names = [','].intercalate names := by
  rw [namesString, hlen, Tokens.foldl_range_parts]

/-! ### The texts read back -/

theorem acceptedMmsi_decimal {mmsi : Nat} (h : validMmsi mmsi = true) :
    acceptedMmsi (decimal mmsi) = some mmsi := by
  have hlt : mmsi < ulongModulus := by
    have hmax : mmsi ≤ maxMmsi := (validMmsi_iff.mp h).2
    have hword : maxMmsi < ulongModulus := by decide
    omega
  rw [acceptedMmsi, toULong_decimal hlt]
  simp [h]

/-- The text a row shows is accepted as its MMSI. -/
theorem acceptedMmsi_decimal09 {mmsi : Nat} (h : validMmsi mmsi = true) :
    acceptedMmsi (decimal09 mmsi) = some mmsi := by
  rw [decimal09_eq_decimal (validMmsi_iff.mp h).1, acceptedMmsi_decimal h]

theorem validMmsi_of_accepted {token : WxString} {mmsi : Nat}
    (h : acceptedMmsi token = some mmsi) : validMmsi mmsi = true := by
  unfold acceptedMmsi at h
  split at h
  · split at h <;> cases h
    assumption
  · cases h

/-- The list of MMSIs comes back whole. -/
theorem wxStringTokenize_mmsiString (mmsiList : List Nat) :
    wxStringTokenize (mmsiString mmsiList) = mmsiList.map decimal := by
  rw [wxStringTokenize, mmsiString_eq]
  refine Tokens.tokens_intercalate ?_ (by simp [decimal_ne_nil])
  intro token htoken hcomma
  obtain ⟨mmsi, -, rfl⟩ := List.mem_map.mp htoken
  have hdigit := isDigit_of_mem_decimal hcomma
  cases hdigit

/-- **What is read from the texts of a list**: its MMSIs, each with the token of its own
index for a name. -/
theorem readVessels_mmsiString {mmsiList : List Nat} (h : ∀ m ∈ mmsiList, validMmsi m = true)
    (namesText : WxString) :
    readVessels (mmsiString mmsiList) namesText
      = mmsiList.zipIdx.map fun (m, i) =>
          (m, ((wxStringTokenize namesText)[i]?).getD []) := by
  rw [readVessels, wxStringTokenize_mmsiString, List.zipIdx_map, List.filterMap_map,
    ← List.filterMap_eq_map]
  refine List.filterMap_congr fun p hp => ?_
  have hmem : p.1 ∈ mmsiList := List.fst_mem_of_mem_zipIdx hp
  simp [acceptedMmsi_decimal (h _ hmem)]

section

variable {D : Type} [Double D]

/-- **The saved MMSIs come back whatever the names are.** -/
theorem loadSettings_mmsiList {s : Settings D} (hvalid : ∀ m ∈ s.mmsiList, validMmsi m = true) :
    (loadSettings (saveSettings s)).mmsiList = s.mmsiList := by
  show (readVessels (mmsiString s.mmsiList) _).map Prod.fst = s.mmsiList
  rw [readVessels_mmsiString hvalid, List.map_map]
  exact List.zipIdx_map_fst 0 s.mmsiList

/-- The name that comes back at an index is the token at that index. -/
theorem loadSettings_mmsiListNames {s : Settings D}
    (hlen : s.mmsiList.length = s.mmsiListNames.length)
    (hvalid : ∀ m ∈ s.mmsiList, validMmsi m = true) :
    (loadSettings (saveSettings s)).mmsiListNames
      = (List.range s.mmsiList.length).map fun i =>
          ((wxStringTokenize ([','].intercalate s.mmsiListNames))[i]?).getD [] := by
  show (readVessels (mmsiString s.mmsiList) (namesString s.mmsiList s.mmsiListNames)).map Prod.snd
    = _
  rw [readVessels_mmsiString hvalid, namesString_eq hlen, List.map_map, List.range_eq_range',
    ← List.zipIdx_map_snd 0 s.mmsiList, List.map_map]
  rfl

/-- Names without commas come back as they were. -/
theorem loadSettings_mmsiListNames_eq {s : Settings D}
    (hlen : s.mmsiList.length = s.mmsiListNames.length)
    (hvalid : ∀ m ∈ s.mmsiList, validMmsi m = true) (hsep : ∀ name ∈ s.mmsiListNames, ',' ∉ name) :
    (loadSettings (saveSettings s)).mmsiListNames = s.mmsiListNames := by
  rw [loadSettings_mmsiListNames hlen hvalid]
  simp only [wxStringTokenize, Tokens.getD_tokens_intercalate hsep]
  refine List.ext_getElem (by simp [hlen]) fun i hi hi' => ?_
  simp [hi']

/--
**When the saved vessels come back.**  For every list of accepted MMSIs and every list of
as many names, loading what was saved restores the same pairs in the same order exactly
when no name holds a comma.
-/
theorem saved_vessels_iff (s : Settings D) (hlen : s.mmsiList.length = s.mmsiListNames.length)
    (hvalid : ∀ m ∈ s.mmsiList, validMmsi m = true) :
    ((loadSettings (saveSettings s)).mmsiList = s.mmsiList ∧
        (loadSettings (saveSettings s)).mmsiListNames = s.mmsiListNames) ↔
      ∀ name ∈ s.mmsiListNames, ',' ∉ name := by
  constructor
  · rintro ⟨-, hnames⟩ name hname
    rw [← hnames, loadSettings_mmsiListNames hlen hvalid] at hname
    obtain ⟨i, -, rfl⟩ := List.mem_map.mp hname
    cases htok : (wxStringTokenize ([','].intercalate s.mmsiListNames))[i]? with
    | none => simp
    | some token => exact Tokens.not_mem_of_mem_tokens (List.mem_of_getElem? htok)
  · intro hsep
    exact ⟨loadSettings_mmsiList hvalid, loadSettings_mmsiListNames_eq hlen hvalid hsep⟩

end

/-! ### What a configuration holds -/

/-- The loop of `LoadSettings`: the two vectors, token by token. -/
def loadVessels (mmsiTokens nameTokens : List WxString) : List Nat × List WxString :=
  (List.range mmsiTokens.length).foldl (fun vectors i =>
    match acceptedMmsi ((mmsiTokens[i]?).getD []) with
    | none => vectors
    | some value => (vectors.1 ++ [value], vectors.2 ++ [(nameTokens[i]?).getD []])) ([], [])

/-- The vessel at index `i` of two lists of tokens, if its MMSI is in range. -/
def vesselAt (mmsiTokens nameTokens : List WxString) (i : Nat) : Option (Nat × WxString) :=
  match toULong ((mmsiTokens[i]?).getD []) with
  | none => none
  | some value =>
      if 100000000 ≤ value ∧ value ≤ 999999999 then some (value, (nameTokens[i]?).getD []) else none

/-- The vessels of a configuration, each with its own name. -/
def configuredVessels (mmsiText namesText : WxString) : List (Nat × WxString) :=
  (List.range (wxStringTokenize mmsiText).length).filterMap
    (vesselAt (wxStringTokenize mmsiText) (wxStringTokenize namesText))

theorem vesselAt_eq (mmsiTokens nameTokens : List WxString) (i : Nat) :
    vesselAt mmsiTokens nameTokens i
      = (acceptedMmsi ((mmsiTokens[i]?).getD [])).map (·, (nameTokens[i]?).getD []) := by
  unfold vesselAt acceptedMmsi
  split
  · rename_i hnone
    rw [hnone]
    rfl
  · rename_i value hsome
    rw [hsome]
    simp only
    by_cases h : 100000000 ≤ value ∧ value ≤ 999999999
    · rw [if_pos h, if_pos (validMmsi_iff.mpr h)]
      rfl
    · rw [if_neg h, if_neg fun hv => h (validMmsi_iff.mp hv)]
      rfl

/-- **The loop pushes the vessels in order**, and both vectors at once. -/
theorem loadVessels_eq (mmsiTokens nameTokens : List WxString) :
    loadVessels mmsiTokens nameTokens
      = (((List.range mmsiTokens.length).filterMap (vesselAt mmsiTokens nameTokens)).map Prod.fst,
        ((List.range mmsiTokens.length).filterMap (vesselAt mmsiTokens nameTokens)).map
          Prod.snd) := by
  have hloop : ∀ (indices : List Nat) (vectors : List Nat × List WxString),
      indices.foldl (fun vectors i =>
        match acceptedMmsi ((mmsiTokens[i]?).getD []) with
        | none => vectors
        | some value => (vectors.1 ++ [value], vectors.2 ++ [(nameTokens[i]?).getD []])) vectors
        = (vectors.1 ++ (indices.filterMap (vesselAt mmsiTokens nameTokens)).map Prod.fst,
          vectors.2 ++ (indices.filterMap (vesselAt mmsiTokens nameTokens)).map Prod.snd) := by
    intro indices
    induction indices with
    | nil => intro vectors; simp
    | cons i indices ih =>
        intro vectors
        rw [List.foldl_cons, ih, List.filterMap_cons, vesselAt_eq]
        cases acceptedMmsi ((mmsiTokens[i]?).getD []) with
        | none => rfl
        | some value => simp
  exact hloop _ _

/-- `LoadSettings` reads its vectors by the loop. -/
theorem readVessels_eq (mmsiText namesText : WxString) :
    readVessels mmsiText namesText = configuredVessels mmsiText namesText := by
  have hindex : (wxStringTokenize mmsiText).zipIdx
      = (List.range (wxStringTokenize mmsiText).length).map fun i =>
          (((wxStringTokenize mmsiText)[i]?).getD [], i) := by
    refine List.ext_getElem (by simp) fun i hi hi' => ?_
    simp only [List.length_zipIdx] at hi
    simp [hi]
  rw [readVessels, configuredVessels, hindex, List.filterMap_map]
  exact List.filterMap_congr fun i _ => (vesselAt_eq _ _ i).symm

section

variable {D : Type} [Double D]

theorem loadSettings_vessels (c : Config D) :
    ((loadSettings c).mmsiList, (loadSettings c).mmsiListNames)
      = loadVessels (wxStringTokenize (c.mmsiList.getD []))
          (wxStringTokenize (c.mmsiListNames.getD [])) := by
  rw [loadVessels_eq]
  show ((readVessels _ _).map Prod.fst, (readVessels _ _).map Prod.snd) = _
  rw [readVessels_eq]
  rfl

/-- A name that was read holds no comma. -/
theorem not_mem_comma_of_loaded {c : Config D} :
    ∀ name ∈ (loadSettings c).mmsiListNames, ',' ∉ name := by
  intro name hname
  obtain ⟨vessel, hvessel, rfl⟩ := List.mem_map.mp hname
  obtain ⟨⟨token, i⟩, -, hi⟩ := List.mem_filterMap.mp hvessel
  obtain ⟨mmsi, -, rfl⟩ := Option.map_eq_some_iff.mp hi
  show ',' ∉ ((wxStringTokenize (c.mmsiListNames.getD []))[i]?).getD []
  cases htok : (wxStringTokenize (c.mmsiListNames.getD []))[i]? with
  | none => simp
  | some token => exact Tokens.not_mem_of_mem_tokens (List.mem_of_getElem? htok)

theorem valid_of_loaded {c : Config D} : ∀ m ∈ (loadSettings c).mmsiList, validMmsi m = true := by
  intro m hm
  obtain ⟨vessel, hvessel, rfl⟩ := List.mem_map.mp hm
  obtain ⟨⟨token, i⟩, -, hi⟩ := List.mem_filterMap.mp hvessel
  obtain ⟨mmsi, hmmsi, rfl⟩ := Option.map_eq_some_iff.mp hi
  exact validMmsi_of_accepted hmmsi

/--
**Loading keeps each vessel with its own name, and is stable.**  For every configuration the
vectors read are the vessels whose MMSI tokens are numbers in range, in order, each with the
name token of its own index or without a name; and what is read, saved and read again is the
same.
-/
theorem loaded_vessels (c : Config D) :
    (loadSettings c).mmsiList.length = (loadSettings c).mmsiListNames.length ∧
      (loadSettings c).mmsiList.zip (loadSettings c).mmsiListNames
        = configuredVessels (c.mmsiList.getD []) (c.mmsiListNames.getD []) ∧
      (loadSettings (saveSettings (loadSettings c))).mmsiList = (loadSettings c).mmsiList ∧
      (loadSettings (saveSettings (loadSettings c))).mmsiListNames
        = (loadSettings c).mmsiListNames := by
  have hvectors := (loadSettings_vessels c).trans (loadVessels_eq _ _)
  rw [Prod.mk.injEq] at hvectors
  have hlen : (loadSettings c).mmsiList.length = (loadSettings c).mmsiListNames.length := by
    rw [hvectors.1, hvectors.2, List.length_map, List.length_map]
  refine ⟨hlen, ?_, loadSettings_mmsiList valid_of_loaded,
    loadSettings_mmsiListNames_eq hlen valid_of_loaded not_mem_comma_of_loaded⟩
  rw [hvectors.1, hvectors.2, List.zip_map', List.map_id'']
  · rfl
  · exact fun _ => rfl

end

/-- Two vessels, one of them without a name. -/
noncomputable def twoVessels : Settings ℝ :=
  { mmsiList := [227000000, 227000001], mmsiListNames := [wx "", wx "Tug"] }

theorem saved_vessels_iff_twoVessels :
    (loadSettings (saveSettings twoVessels)).mmsiList = twoVessels.mmsiList ∧
      (loadSettings (saveSettings twoVessels)).mmsiListNames = twoVessels.mmsiListNames :=
  (saved_vessels_iff twoVessels rfl (by decide)).mpr (by decide)

/-- Two vessels, the first with a comma in its name. -/
noncomputable def commaVessels : Settings ℝ :=
  { mmsiList := [227000000, 227000001], mmsiListNames := [wx "Smith, J", wx "Tug"] }

/-- The part after the comma becomes the second vessel's name. -/
theorem comma_shifts_names :
    (loadSettings (saveSettings commaVessels)).mmsiListNames = [wx "Smith", wx " J"] ∧
      (loadSettings (saveSettings commaVessels)).mmsiListNames ≠ commaVessels.mmsiListNames := by
  have hnames : (loadSettings (saveSettings commaVessels)).mmsiListNames
      = [wx "Smith", wx " J"] := by
    decide +kernel
  exact ⟨hnames, by rw [hnames]; decide⟩

end AisLive
