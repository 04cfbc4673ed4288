import CloudAudit.Books
import CloudAudit.Risk
/-!
# Scanning

A scan checks every rule on the resources of some groups. For each group it looks at one collection:
the one of the run if it stored anything of the group, else the one with the latest resource. A
group of which nothing is stored is known by its skeleton only.
-/
set_option autoImplicit false

namespace CloudAudit.Scan

/-- The resource with the latest instant, the last of several. -/
def newest (best : Option Resource) : List Resource → Option Resource
  | [] => best
  | resource :: more =>
    match best with
    | some found =>
      if Instant.laterStamp found.timestamp resource.timestamp then newest (some found) more
      else newest (some resource) more
    | none => newest (some resource) more

def collectionOf (collectId : String) (candidates : List Resource) : Option String :=
  if candidates.any fun resource => resource.collectionUid == some collectId then some collectId
  else (newest none candidates).bind Resource.collectionUid

def ofGroup (stored : List Resource) (collectId : String) (kinds : List ResourceKind)
    (skeletons : List Resource) (group : String) : List Resource :=
  match stored.filter fun resource => resource.resourceGroupName == group with
  | [] =>
    if kinds.contains .resourceGroup then
      skeletons.filter fun skeleton => skeleton.name == group
    else []
  | candidates =>
    candidates.filter fun resource =>
      resource.collectionUid == collectionOf collectId candidates

def ofGroups (stored : List Resource) (collectId : String) (groups : List String)
    (kinds : List ResourceKind) (skeletons : List Resource) : List Resource :=
  groups.flatMap (ofGroup stored collectId kinds skeletons)

def resourcesFor (collectId : String) (groups : List String) (kinds : List ResourceKind)
    (skeletons : List Resource) : Act (List Resource) := do
  let stored ← Books.listResources { groups := some groups, kinds := some kinds }
  return ofGroups stored collectId groups kinds skeletons

structure Outcome where
  rule : Rule
  observations : List Observation := []
  errors : List AuditError := []
  deriving Inhabited

def dated (observation : Observation) : Work Observation := do
  let uid ← Books.mintId
  let now ← Books.readClock
  return { observation with uid, timestamp := some now }

def ruleError (rule : Rule) (resource : Resource) (error : AuditError) : AuditError :=
  .ruleEngine ("rule " ++ rule.name ++ " on " ++ resource.name ++ ": " ++ error.message)

/-- Check a rule on resources one after another; a resource that cannot be checked is an error. -/
def checkResources (rule : Rule) : List Resource → Work Outcome
  | [] => return { rule }
  | resource :: resources => do
    match rule.check resource with
    | .ok found => do
      let found ← found.mapM dated
      let rest ← checkResources rule resources
      return { rest with observations := found ++ rest.observations }
    | .error error => do
      let rest ← checkResources rule resources
      return { rest with errors := ruleError rule resource error :: rest.errors }

def checkRule (rule : Rule) (collectId : String) (groups : List String)
    (skeletons : List Resource) : Work Outcome := do
  match ← (resourcesFor collectId groups rule.acceptedKinds skeletons).run with
  | .ok resources => checkResources rule resources
  | .error error => return { rule, errors := [error] }

/-- The hierarchy for impacts: the skeletons of groups, overridden by the stored records. -/
def hierarchy (skeletons records : List Resource) : Hierarchy :=
  .ofResources (skeletons.filter Resource.isGroup ++ records)

def stamp (hierarchy : Hierarchy) (scanId collectId : String) (observation : Observation) :
    Observation :=
  let impact := (hierarchy.impact observation.groupName).1
  { observation with
    scanId := some scanId
    collectionId := some (observation.collectionId.getD collectId)
    impact
    riskScore := observation.severity.weighted impact }

def keepError (rule : Rule) (error : AuditError) : AuditError :=
  .ruleEngine ("storing observations for rule " ++ rule.name ++ ": " ++ error.message)

/-- Keep the observations of the rules one after another. Answers what was kept, and the errors of
the rules and of keeping. -/
def keepOutcomes (hierarchy : Hierarchy) (scanId collectId : String) :
    List Outcome → Work (List Observation × List AuditError)
  | [] => return ([], [])
  | outcome :: outcomes => do
    let stamped := outcome.observations.map (stamp hierarchy scanId collectId)
    let kept ← if stamped.isEmpty then pure (.ok []) else (Books.addObservations stamped).run
    let (observations, errors) ← keepOutcomes hierarchy scanId collectId outcomes
    match kept with
    | .ok kept => return (kept ++ observations, outcome.errors ++ errors)
    | .error error =>
      return (observations, outcome.errors ++ keepError outcome.rule error :: errors)

/-- Log that a scan reached a status; a scan goes on when that fails. -/
def logStatus (scanId : String) (groups : List String) (status : OperationStatus) :
    Work Unit := do
  let _ ← (Books.logGroups scanId groups .scan status).run

def scan (rules : List Rule) (scanId collectId : String) (groups : List String)
    (skeletons : List Resource) : Work (List Observation × List AuditError) := do
  logStatus scanId groups .started
  let outcomes ← rules.mapM fun rule => checkRule rule collectId groups skeletons
  let records ← (resourcesFor collectId groups [.resourceGroup] skeletons).run
  let (records, recordErrors) : List Resource × List AuditError :=
    match records with
    | .ok records => (records, [])
    | .error error => ([], [error])
  let (observations, errors) ←
    keepOutcomes (hierarchy skeletons records) scanId collectId outcomes
  logStatus scanId groups .completed
  return (observations, recordErrors ++ errors)

def checkRules (deployment : Deployment) (scanId collectId : String) (groups : List String)
    (skeletons : List Resource) : Work (List Observation × List AuditError) :=
  scan deployment.rules scanId collectId groups skeletons

end CloudAudit.Scan
