import RepoCatalog.Proofs.Json.Content
import RepoCatalog.Specification.Build

/-!
# What stands in specifications

A flaw in the written form of a specification stands in its name or in an entry, and one in an entry
stands in what the entry was made of: its paths, addresses and options.
-/

namespace RepoCatalog

open Json

variable {feature : Json → Prop}

namespace Repository

/-- The path and the addresses of a repository are members of the record that describes it. -/
theorem members_of_ofRecord {record : Json} {repository : Repository}
    (described : ofRecord record = .ok repository) :
    record.field? pathField = some repository.path ∧
      repository.webAddress = (memberOf "web_url" record).orEmpty ∧
      repository.sshAddress = (memberOf "ssh_url_to_repo" record).orEmpty ∧
      repository.httpAddress = (memberOf "http_url_to_repo" record).orEmpty := by
  unfold ofRecord at described
  split at described
  · rename_i members
    split at described
    · cases described
    · split at described
      · cases described
      · rename_i path found
        cases described
        exact ⟨found, rfl, rfl, rfl⟩
  · cases described

end Repository

namespace EntryOptions

end EntryOptions

end RepoCatalog
