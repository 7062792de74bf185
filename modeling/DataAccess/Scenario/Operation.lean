import DataAccess.Repository.Service

/-! The operations of a repository and its service as data, with their outcomes. -/
namespace DataAccess

inductive Operation (schema : Schema) where
  | create (row : Row schema)
  | createMany (rows : List (Row schema))
  | update (condition : Condition) (changes : Changes)
  | updateById (id : schema.idType.Carrier) (changes : Changes)
  | findAll (condition : Option Condition) (request : ListingRequest) (options : ReadOptions)
  | findPage (condition : Option Condition) (request : ListingRequest) (options : ReadOptions)
  | findOne (condition : Condition) (options : ReadOptions)
  | findById (id : schema.idType.Carrier) (options : ReadOptions)
  | findByIds (ids : List schema.idType.Carrier) (options : ReadOptions)
  | delete (condition : Condition)
  | deleteById (id : schema.idType.Carrier)
  | deleteByIds (ids : List schema.idType.Carrier)
  | purge (condition : Condition)
  | count (condition : Option Condition)
  | existsWhere (condition : Condition)
  | existsById (id : schema.idType.Carrier)
  | pluck (column : String) (condition : Option Condition)
  | compile (request : ListingRequest) (options : ReadOptions)
  | upsert (row : Row schema) (conflict update : List String)
  | findOrCreate (condition : Condition) (row : Row schema) (options : ReadOptions)
  | restore (condition : Condition)
  | restoreById (id : schema.idType.Carrier)
  | createAndRead (row : Row schema)
  | upsertAndRead (row : Row schema) (conflict update : List String)
  | list (condition : Option Condition) (request : ListingRequest) (options : ReadOptions)

inductive Outcome (schema : Schema) where
  | id (id : schema.idType.Carrier)
  | ids (ids : List schema.idType.Carrier)
  | count (count : UInt64)
  | flag (flag : Bool)
  | row (row : Option (Row schema))
  | rows (rows : List (Row schema))
  | listing (result : ListingResult (Row schema))
  | values (values : List Value)
  | condition (condition : Condition)
  | found (row : Row schema) (created : Bool)

def Repository.perform {schema : Schema} (repository : Repository schema) :
    Operation schema → Engine (Outcome schema)
  | .create row => .id <$> repository.create row
  | .createMany rows => .ids <$> repository.createMany rows
  | .update condition changes => .count <$> repository.update condition changes
  | .updateById id changes => .row <$> repository.updateById id changes
  | .findAll condition request options => .rows <$> repository.findAll condition request options
  | .findPage condition request options =>
    .listing <$> repository.findPage condition request options
  | .findOne condition options => .row <$> repository.findOne condition options
  | .findById id options => .row <$> repository.findById id options
  | .findByIds ids options => .rows <$> repository.findByIds ids options
  | .delete condition => .count <$> repository.delete condition
  | .deleteById id => .flag <$> repository.deleteById id
  | .deleteByIds ids => .count <$> repository.deleteByIds ids
  | .purge condition => .count <$> repository.purge condition
  | .count condition => .count <$> repository.count condition
  | .existsWhere condition => .flag <$> repository.existsWhere condition
  | .existsById id => .flag <$> repository.existsById id
  | .pluck column condition => .values <$> repository.pluck column condition
  | .compile request options => pure (.condition (repository.compile request options))
  | .upsert row conflict update => .id <$> repository.upsert row conflict update
  | .findOrCreate condition row options =>
    (fun found => .found found.1 found.2) <$> repository.findOrCreate condition row options
  | .restore condition => .count <$> repository.restore condition
  | .restoreById id => .flag <$> repository.restoreById id
  | .createAndRead row => (.row ∘ some) <$> repository.createAndRead row
  | .upsertAndRead row conflict update =>
    (.row ∘ some) <$> repository.upsertAndRead row conflict update
  | .list condition request options => .listing <$> repository.list condition request options

end DataAccess
