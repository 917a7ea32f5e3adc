/-
Where the snapshot of a region is kept.  A property may give the location as a
template; without it the location is a path and the name of the region's
resource.  From the location a resolver makes a resource: exporting does
without one that is not found, importing needs one that is there and can be
read.
-/
import RegionSnapshot.Exchange.Error
import RegionSnapshot.Expression.Template
import RegionSnapshot.Resource.Loader
import RegionSnapshot.Settings

namespace RegionSnapshot

/-- How the location of a region's resource is found.  The template, if there
is one, is the value of the property `override`. -/
structure LocationRule where
  environment : Option Environment
  components : List (String × Json)
  override : String
  path : String

namespace LocationRule

/-- A path and a name, with a slash between them unless the path is empty or
ends with a slash or a colon. -/
def join (path name : String) : String :=
  if path.isEmpty || Text.endsWith '/' path || Text.endsWith ':' path then
    path ++ name
  else path ++ "/" ++ name

/-- The location from a template. -/
def fromTemplate (ctx : Context) (template : String) :
    Except ExchangeError String :=
  match Template.expand ctx template with
  | .error cause => .error (.expression template cause)
  | .ok location =>
      if Text.isBlank location then
        .error (.blankLocation ctx.region.fullPath)
      else .ok location

/-- The location of a region's resource. -/
def location (rule : LocationRule) (region : RegionId) :
    Except ExchangeError String :=
  let template? := rule.environment.bind (fun env =>
    (env.nonBlank? rule.override).map (fun template => (env, template)))
  match template? with
  | some (env, template) =>
      fromTemplate ⟨region, env, rule.components⟩ template
  | none =>
      let env := rule.environment.getD .empty
      .ok (join rule.path (Settings.resourceName env region))

/-- The class path of the environment. -/
def classpath (rule : LocationRule) : List String :=
  match rule.environment with
  | some env => Settings.classpath env
  | none => Settings.defaultClasspath

/-- The resolver of locations where no other one is set. -/
def resolver (rule : LocationRule) (agent : Agent) : Resolver :=
  .ofClasspath rule.classpath agent

/-- The rule for exports into a directory. -/
def exporting (environment : Option Environment)
    (components : List (String × Json)) (directory : String) : LocationRule :=
  ⟨environment, components, Settings.exportLocationProperty,
    "file://" ++ directory⟩

/-- The rule for imports from the class path. -/
def importing (environment : Option Environment)
    (components : List (String × Json)) : LocationRule :=
  ⟨environment, components, Settings.importLocationProperty, classpathScheme⟩

end LocationRule

/-- Finds the resource of a region. -/
inductive RegionResolver
  | exporting (rule : LocationRule) (resolver : Resolver)
  | importing (rule : LocationRule) (resolver : Resolver)
  | nowhere

namespace RegionResolver

/-- The resource that a region is imported from. -/
def checkImport (tree : FileTree) (region : RegionId)
    (found : Except ResourceError Resource) : Except ExchangeError Resource :=
  match found with
  | .error (.notFound location) =>
      .error (.resourceDoesNotExist location region.fullPath)
  | .error cause => .error (.resource cause)
  | .ok resource =>
      if !resource.isThere tree then
        .error (.resourceDoesNotExist resource.location region.fullPath)
      else if !resource.isReadable tree then
        .error (.resourceNotReadable resource.location region.fullPath)
      else .ok resource

/-- The resource of a region, if there is one. -/
def resolve (tree : FileTree) (region : RegionId) : RegionResolver →
    Except ExchangeError (Option Resource)
  | .nowhere => .ok none
  | .exporting rule resolver => do
      let location ← rule.location region
      match resolver.resolve tree location with
      | .ok resource => return some resource
      | .error (.notFound _) => return none
      | .error cause => throw (.resource cause)
  | .importing rule resolver => do
      let location ← rule.location region
      return some (← checkImport tree region (resolver.resolve tree location))

end RegionResolver
end RegionSnapshot
