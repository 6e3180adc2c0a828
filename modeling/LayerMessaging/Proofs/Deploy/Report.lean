import LayerMessaging.Deploy.ArtifactReader
import Mathlib.Data.List.Forall2

namespace LayerMessaging.Artifact

variable {entry : Entry} {contract : DeployedContract} {address : Address} {artifact : Artifact}
  {name : Option String} {path : String}

/-- The transaction creates the contract at an address, whether or not it gives a name. -/
structure Entry.Creates (entry : Entry) (address : Address) : Prop where
  kind : entry.kind = "CREATE" ∨ entry.kind = "CREATE2"
  address : entry.contractAddress = some address

structure Entry.Names (entry : Entry) (contract : DeployedContract) : Prop where
  creates : entry.Creates contract.address
  name : entry.contractName = some contract.name

def Entry.isListed (entry : Entry) : Bool :=
  decide (entry.kind = "CREATE" ∨ entry.kind = "CREATE2") &&
    (entry.contractName.isSome && entry.contractAddress.isSome)

theorem Entry.created?_eq_some_iff : entry.created? = some contract ↔ entry.Names contract := by
  unfold created? creations
  constructor
  · intro h
    split at h
    · rename_i hkind
      cases hname : entry.contractName with
      | none => simp [hname] at h
      | some text =>
        cases haddress : entry.contractAddress with
        | none => simp [hname, haddress] at h
        | some address =>
          simp only [hname, haddress, Option.some.injEq] at h
          subst h
          exact ⟨⟨by simpa using hkind, haddress⟩, hname⟩
    · cases h
  · intro h
    rw [if_pos (by simpa using h.creates.kind), h.name, h.creates.address]

theorem Entry.isListed_eq (entry : Entry) : entry.isListed = entry.created?.isSome := by
  unfold isListed created? creations
  by_cases hkind : entry.kind = "CREATE" ∨ entry.kind = "CREATE2"
  · rw [if_pos (by simpa using hkind)]
    cases entry.contractName <;> cases entry.contractAddress <;> simp [hkind]
  · rw [if_neg (by simpa using hkind)]
    simp [hkind]

/-- What a partial function gives, it gives to the members that it is defined on, in order. -/
theorem forall₂_filter_filterMap {α β : Type} (f : α → Option β) (xs : List α) :
    List.Forall₂ (fun x y => f x = some y) (xs.filter fun x => (f x).isSome) (xs.filterMap f) := by
  induction xs with
  | nil => exact .nil
  | cons x xs ih =>
    cases hx : f x with
    | none => simpa [hx] using ih
    | some y => simpa [hx] using ih

/-- Each listed transaction has its contract, in the order of the run. -/
theorem forall₂_contracts (artifact : Artifact) :
    List.Forall₂ Entry.Names (artifact.transactions.filter Entry.isListed) artifact.contracts := by
  have h := forall₂_filter_filterMap Entry.created? artifact.transactions
  have hlisted : Entry.isListed = fun entry => entry.created?.isSome := by
    funext entry
    exact entry.isListed_eq
  rw [hlisted]
  apply h.imp
  intro entry contract hcreated
  exact Entry.created?_eq_some_iff.mp hcreated

/-- Without a wanted name, every contract is wanted. -/
def IsWanted (name : Option String) (contract : DeployedContract) : Prop :=
  ∀ wanted ∈ name, contract.name = wanted

instance : Decidable (IsWanted name contract) :=
  inferInstanceAs (Decidable (∀ wanted ∈ name, contract.name = wanted))

/-- The contract is wanted, and none behind it is. -/
def IsLastWanted (name : Option String) (contracts : List DeployedContract)
    (contract : DeployedContract) : Prop :=
  ∃ before after, contracts = before ++ contract :: after ∧ IsWanted name contract ∧
    ∀ later ∈ after, ¬ IsWanted name later

theorem primary?_eq_find? (artifact : Artifact) (name : Option String) :
    artifact.primary? name =
      artifact.contracts.reverse.find? fun contract => decide (IsWanted name contract) := by
  cases name with
  | none =>
    have hall : (fun contract => decide (IsWanted none contract)) = fun _ => true := by
      funext contract
      simp [IsWanted]
    rw [hall]
    unfold primary?
    rw [← List.head?_reverse]
    cases artifact.contracts.reverse <;> rfl
  | some wanted => simp [primary?, IsWanted]

theorem reverse_eq_append_cons_iff {α : Type} {x : α} {xs front behind : List α} :
    xs.reverse = front ++ x :: behind ↔ xs = behind.reverse ++ x :: front.reverse := by
  rw [List.reverse_eq_iff]
  simp

theorem primary?_eq_some_iff :
    artifact.primary? name = some contract ↔ IsLastWanted name artifact.contracts contract := by
  rw [primary?_eq_find?, List.find?_eq_some_iff_append]
  constructor
  · rintro ⟨hwanted, after, before, hreverse, hafter⟩
    refine ⟨before.reverse, after.reverse, reverse_eq_append_cons_iff.mp hreverse, ?_, ?_⟩
    · simpa using hwanted
    · simpa using hafter
  · rintro ⟨before, after, hcontracts, hwanted, hafter⟩
    refine ⟨by simpa using hwanted, after.reverse, before.reverse, ?_, by simpa using hafter⟩
    apply reverse_eq_append_cons_iff.mpr
    simpa using hcontracts

theorem primary?_eq_none_iff :
    artifact.primary? name = none ↔ ∀ contract ∈ artifact.contracts, ¬ IsWanted name contract := by
  simp [primary?_eq_find?]

/-- Some contract is wanted if there is one, and one of the wanted name. -/
theorem exists_wanted_iff {contracts : List DeployedContract} :
    (∃ contract ∈ contracts, IsWanted name contract) ↔
      contracts ≠ [] ∧ ∀ wanted ∈ name, ∃ contract ∈ contracts, contract.name = wanted := by
  cases name with
  | none => simp [IsWanted, List.eq_nil_iff_forall_not_mem]
  | some wanted =>
    simp only [IsWanted, Option.mem_some_iff, forall_eq']
    constructor
    · rintro ⟨contract, hmem, hname⟩
      exact ⟨List.ne_nil_of_mem hmem, contract, hmem, hname⟩
    · exact fun h => h.2

structure Receipt.SummedUp (receipt : Receipt) (summary : ReceiptSummary) : Prop where
  hash_eq : summary.hash = receipt.hash
  blockNumber_eq : summary.blockNumber = receipt.blockNumber
  success_iff : summary.success = true ↔ receipt.status = some 1

theorem forall₂_summaries (artifact : Artifact) :
    List.Forall₂ Receipt.SummedUp artifact.receipts artifact.summaries := by
  unfold summaries
  rw [List.forall₂_map_right_iff, List.forall₂_same]
  intro receipt _
  exact ⟨rfl, rfl, by simp [Receipt.summary]⟩

structure Reports (artifact : Artifact) (name : Option String) (path : String)
    (report : DeploymentReport) : Prop where
  contracts_eq : report.contracts = artifact.contracts
  counts : ∃ contract, IsLastWanted name report.contracts contract ∧
    report.address = contract.address
  receipts : List.Forall₂ Receipt.SummedUp artifact.receipts report.receipts
  path_eq : report.artifactPath = path

theorem report_of_primary? (h : artifact.primary? name = some contract) (path : String) :
    artifact.report name path =
      .ok ⟨contract.address, artifact.contracts, artifact.summaries, path⟩ := by
  unfold report
  rw [h]

theorem report_of_no_primary? (h : artifact.primary? name = none) (path : String) :
    artifact.report name path = .error (.contractNotFound (name.getD "<any>") path) := by
  unfold report
  rw [h]

/-- There is a report exactly if some contract is listed, and one of the wanted name if one is
wanted. It lists the contracts of all transactions that create one and give its name and address,
the last wanted one counts, and its summaries are those of the receipts, in order. -/
theorem report_picks_last_wanted (artifact : Artifact) (name : Option String) (path : String) :
    List.Forall₂ Entry.Names (artifact.transactions.filter Entry.isListed) artifact.contracts ∧
    ((∃ report, artifact.report name path = .ok report) ↔
      artifact.contracts ≠ [] ∧
        ∀ wanted ∈ name, ∃ contract ∈ artifact.contracts, contract.name = wanted) ∧
    (∀ error, artifact.report name path = .error error →
      error = .contractNotFound (name.getD "<any>") path) ∧
    ∀ report, artifact.report name path = .ok report → artifact.Reports name path report := by
  refine ⟨artifact.forall₂_contracts, ?_⟩
  rw [← exists_wanted_iff]
  cases hprimary : artifact.primary? name with
  | none =>
    rw [report_of_no_primary? hprimary]
    have hnone := primary?_eq_none_iff.mp hprimary
    refine ⟨?_, ?_, nofun⟩
    · constructor
      · rintro ⟨report, ⟨⟩⟩
      · rintro ⟨contract, hmem, hwanted⟩
        exact absurd hwanted (hnone contract hmem)
    · rintro error ⟨⟩
      rfl
  | some contract =>
    rw [report_of_primary? hprimary]
    have hlast := primary?_eq_some_iff.mp hprimary
    refine ⟨?_, nofun, ?_⟩
    · obtain ⟨before, after, hcontracts, hwanted, -⟩ := hlast
      refine ⟨fun _ => ⟨contract, ?_, hwanted⟩, fun _ => ⟨_, rfl⟩⟩
      rw [hcontracts]
      simp
    · rintro report ⟨⟩
      exact ⟨rfl, ⟨contract, hlast, rfl⟩, artifact.forall₂_summaries, rfl⟩

def Entry.CreatesNamed (entry : Entry) (address : Address) : Prop :=
  entry.Creates address ∧ entry.contractName ≠ none

/-- Of the members of a list that give something, the last gives this. -/
def LastGives {α β : Type} (gives : α → β → Prop) (xs : List α) (y : β) : Prop :=
  ∃ before x after, xs = before ++ x :: after ∧ gives x y ∧
    ∀ later ∈ after, ∀ other, ¬ gives later other

theorem getLast?_filterMap_eq_some_iff {α β : Type} {f : α → Option β} {gives : α → β → Prop}
    (h : ∀ x y, f x = some y ↔ gives x y) {xs : List α} {y : β} :
    (xs.filterMap f).getLast? = some y ↔ LastGives gives xs y := by
  rw [List.getLast?_filterMap, List.findSome?_eq_some_iff]
  have hnone : ∀ x, f x = none ↔ ∀ other, ¬ gives x other := by
    intro x
    simp [Option.eq_none_iff_forall_ne_some, h]
  constructor
  · rintro ⟨after, x, before, hreverse, hx, hafter⟩
    refine ⟨before.reverse, x, after.reverse, reverse_eq_append_cons_iff.mp hreverse,
      (h x y).mp hx, ?_⟩
    intro later hlater
    exact (hnone later).mp (hafter later (List.mem_reverse.mp hlater))
  · rintro ⟨before, x, after, hxs, hx, hafter⟩
    refine ⟨after.reverse, x, before.reverse, ?_, (h x y).mpr hx, ?_⟩
    · apply reverse_eq_append_cons_iff.mpr
      simpa using hxs
    · intro later hlater
      exact (hnone later).mpr (hafter later (List.mem_reverse.mp hlater))

theorem Entry.createsNamed_iff :
    entry.CreatesNamed address ↔ entry.created?.map DeployedContract.address = some address := by
  rw [Option.map_eq_some_iff]
  constructor
  · rintro ⟨hcreates, hname⟩
    obtain ⟨text, htext⟩ := Option.ne_none_iff_exists'.mp hname
    exact ⟨⟨text, address⟩, Entry.created?_eq_some_iff.mpr ⟨hcreates, htext⟩, rfl⟩
  · rintro ⟨contract, hcreated, rfl⟩
    have hnames := Entry.created?_eq_some_iff.mp hcreated
    exact ⟨hnames.creates, by simp [hnames.name]⟩

def addresses (artifact : Artifact) : List Address :=
  artifact.contracts.map DeployedContract.address

theorem addresses_eq (artifact : Artifact) :
    artifact.addresses = artifact.transactions.filterMap fun entry =>
      entry.created?.map DeployedContract.address :=
  List.map_filterMap

theorem mem_addresses_iff :
    address ∈ artifact.addresses ↔
      ∃ entry ∈ artifact.transactions, entry.CreatesNamed address := by
  simp [addresses_eq, Entry.createsNamed_iff]

/-- Without a wanted name, the last listed contract counts. -/
theorem exists_report_iff :
    (∃ report, artifact.report none path = .ok report ∧ report.address = address) ↔
      LastGives Entry.CreatesNamed artifact.transactions address := by
  rw [← getLast?_filterMap_eq_some_iff fun _ _ => Entry.createsNamed_iff.symm, ← addresses_eq,
    addresses, List.getLast?_map, Option.map_eq_some_iff]
  have hprimary : artifact.contracts.getLast? = artifact.primary? none := rfl
  rw [hprimary]
  cases h : artifact.primary? none with
  | none =>
    rw [report_of_no_primary? h]
    simp
  | some contract =>
    rw [report_of_primary? h]
    simp

/-- No created contract is lost: each is listed, and without a wanted name the last one counts. -/
structure LosesNone (artifact : Artifact) (path : String) : Prop where
  lists : ∀ entry ∈ artifact.transactions, ∀ address, entry.Creates address →
    address ∈ artifact.addresses
  counts : ∀ address, LastGives Entry.Creates artifact.transactions address →
    ∃ report, artifact.report none path = .ok report ∧ report.address = address

theorem losesNone_iff :
    artifact.LosesNone path ↔
      (∀ entry ∈ artifact.transactions, ∀ address, entry.Creates address →
        ∃ other ∈ artifact.transactions, other.CreatesNamed address) ∧
      ∀ address, LastGives Entry.Creates artifact.transactions address →
        LastGives Entry.CreatesNamed artifact.transactions address := by
  constructor
  · intro h
    constructor
    · intro entry hmem address hcreates
      exact mem_addresses_iff.mp (h.lists entry hmem address hcreates)
    · intro address hlast
      exact exists_report_iff.mp (h.counts address hlast)
  · rintro ⟨hnamed, hlast⟩
    constructor
    · intro entry hmem address hcreates
      exact mem_addresses_iff.mpr (hnamed entry hmem address hcreates)
    · intro address h
      exact exists_report_iff.mpr (hlast address h)

theorem losesNone_of_named (h : ∀ entry ∈ artifact.transactions, ∀ address,
    entry.Creates address → entry.contractName ≠ none) (path : String) :
    artifact.LosesNone path := by
  rw [losesNone_iff]
  constructor
  · intro entry hmem address hcreates
    exact ⟨entry, hmem, hcreates, h entry hmem address hcreates⟩
  · rintro address ⟨before, entry, after, heq, hcreates, hafter⟩
    have hmem : entry ∈ artifact.transactions := by
      rw [heq]
      simp
    refine ⟨before, entry, after, heq, ⟨hcreates, h entry hmem address hcreates⟩, ?_⟩
    intro later hlater other hother
    exact hafter later hlater other hother.1

/-- The listed addresses are those of the creations that give a name, and without a wanted name the
last of these counts. So no created contract is lost if every creation gives a name, and in general
exactly if every created contract is also created with a name, the last one last. -/
theorem unnamed_creations_alone_are_lost (artifact : Artifact) (path : String) :
    (∀ address, address ∈ artifact.addresses ↔
      ∃ entry ∈ artifact.transactions, entry.CreatesNamed address) ∧
    (∀ address,
      (∃ report, artifact.report none path = .ok report ∧ report.address = address) ↔
        LastGives Entry.CreatesNamed artifact.transactions address) ∧
    ((∀ entry ∈ artifact.transactions, ∀ address, entry.Creates address →
      entry.contractName ≠ none) → artifact.LosesNone path) ∧
    (artifact.LosesNone path ↔
      (∀ entry ∈ artifact.transactions, ∀ address, entry.Creates address →
        ∃ other ∈ artifact.transactions, other.CreatesNamed address) ∧
      ∀ address, LastGives Entry.Creates artifact.transactions address →
        LastGives Entry.CreatesNamed artifact.transactions address) := by
  refine ⟨fun _ => mem_addresses_iff, fun _ => exists_report_iff, ?_, losesNone_iff⟩
  intro h
  exact losesNone_of_named h path

def evenAddress (b : UInt8) : Address := ⟨List.replicate 20 b, by simp⟩

def unnamedText : String :=
  "\x7b\"transactions\": [\x7b\"transactionType\": \"CREATE\", \"contractName\": \"First\", " ++
  "\"contractAddress\": \"0x1111111111111111111111111111111111111111\"\x7d, " ++
  "\x7b\"transactionType\": \"CREATE\", \"contractName\": null, " ++
  "\"contractAddress\": \"0x2222222222222222222222222222222222222222\"\x7d]\x7d"

def unnamedRun : Artifact :=
  ⟨[⟨none, "CREATE", some "First", some (evenAddress 0x11)⟩,
    ⟨none, "CREATE", none, some (evenAddress 0x22)⟩], []⟩

/-- The second contract is created last, but it is not listed, and the first one counts. -/
theorem last_creation_without_name_is_lost :
    Json.Reader.ofText reader unnamedText = .ok unnamedRun ∧
    LastGives Entry.Creates unnamedRun.transactions (evenAddress 0x22) ∧
    evenAddress 0x22 ∉ unnamedRun.addresses ∧
    unnamedRun.report none "run-latest.json" =
      .ok ⟨evenAddress 0x11, [⟨"First", evenAddress 0x11⟩], [], "run-latest.json"⟩ ∧
    ¬ unnamedRun.LosesNone "run-latest.json" := by
  have hcreates : Entry.Creates ⟨none, "CREATE", none, some (evenAddress 0x22)⟩
      (evenAddress 0x22) := ⟨.inl rfl, rfl⟩
  have hlost : evenAddress 0x22 ∉ unnamedRun.addresses := by decide
  refine ⟨by decide +kernel, ⟨[_], _, [], rfl, hcreates, nofun⟩, hlost, by decide, ?_⟩
  intro h
  exact hlost (h.lists _ (by simp [unnamedRun]) _ hcreates)

end LayerMessaging.Artifact
