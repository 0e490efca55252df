/-
  File:      Portfolio/Profile.lean
  Subject:   The owner of the portfolio: the texts of the fixed pages.

  * `Profile`: eight texts, each with a default.
  * `ofValue`: an object overrides the texts that it gives; other fields
    do not matter.
  * `contact`: the contact page.
-/
import Portfolio.Error

namespace Portfolio

open Json (Value Fields)

/-- The page about the owner, unless the profile gives another. -/
def defaultAbout : String :=
  "PORTFOLIO OWNER\nFull-Stack Engineer\n\n" ++
    "I build production systems with a focus on architectural clarity, maintainability, " ++
    "and long-term scalability.\n\n" ++
    "I care about systems thinking, product judgment, and delivering work that lasts."

/-- The page about the system, unless the profile gives another. -/
def defaultSystemInfo : String :=
  "Portfolio System Information\n\nConsole Mode:\n" ++
    "- Read-only virtual filesystem\n" ++
    "- Built once from the site's project data\n" ++
    "- Restricted command set (no pipes, redirection or chaining)"

/-- The texts of the fixed pages. -/
structure Profile where
  about : String := defaultAbout
  email : String := "hello@example.com"
  githubUrl : String := "https://github.com/example"
  linkedinUrl : String := "https://www.linkedin.com/in/example"
  location : String := "Remote"
  resumeUrl : String := "https://example.com/resume.pdf"
  systemInfo : String := defaultSystemInfo
  version : String := "Portfolio v2.0\nLast Updated: January 2026"
  deriving DecidableEq, Repr, Inhabited

namespace Profile

/-- The text of a field, or the default where the field is not given. -/
def textOr (fields : Fields) (name default : String) : String :=
  match fields.given? name with
  | some v => v.display
  | none => default

/-- The profile with the texts that the fields give. -/
def ofFields (fields : Fields) : Profile :=
  let d : Profile := {}
  { about := textOr fields "about" d.about
    email := textOr fields "email" d.email
    githubUrl := textOr fields "github_url" d.githubUrl
    linkedinUrl := textOr fields "linkedin_url" d.linkedinUrl
    location := textOr fields "location" d.location
    resumeUrl := textOr fields "resume_url" d.resumeUrl
    systemInfo := textOr fields "system_info" d.systemInfo
    version := textOr fields "version" d.version }

/-- The profile that a value gives. -/
def ofValue : Value → Except DataFault Profile
  | .object fields => .ok (ofFields fields)
  | _ => .error .notAnObject

/-- The contact page. -/
def contact (p : Profile) : String :=
  "Contact Information:\n\nEmail: " ++ p.email ++ "\nGitHub: " ++ p.githubUrl ++
    "\nLinkedIn: " ++ p.linkedinUrl ++ "\nLocation: " ++ p.location

end Profile

end Portfolio
