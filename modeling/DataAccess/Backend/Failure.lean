/-! Failures that a backend reports. -/
namespace DataAccess

inductive BackendFailure where
  | protocol (text : String)
  | configuration (text : String)
  | encode (text : String)
  | decode (text : String)
  | tls (text : String)
  | typeNotFound (name : String)
  | outOfBounds (length index : Nat)
  | poolTimedOut
  | poolClosed
  | workerCrashed
  | database (text : String)
  | rowNotFound
  | columnNotFound (column : String)
  | columnDecode (index source : String)
  /-- a failure from outside the driver, by its own text -/
  | external (text : String)
deriving DecidableEq

def BackendFailure.message : BackendFailure → String
  | protocol text => "encountered unexpected or invalid data: " ++ text
  | configuration text => "error with configuration: " ++ text
  | encode text => "error occurred while encoding a value: " ++ text
  | decode text => "error occurred while decoding: " ++ text
  | tls text => "error occurred while attempting to establish a TLS connection: " ++ text
  | typeNotFound name => "type named " ++ name ++ " not found"
  | outOfBounds length index =>
    "column index out of bounds: the len is " ++ toString length ++ ", but the index is " ++
      toString index
  | poolTimedOut => "pool timed out while waiting for an open connection"
  | poolClosed => "attempted to acquire a connection on a closed pool"
  | workerCrashed => "attempted to communicate with a crashed background worker"
  | database text => "error returned from database: " ++ text
  | rowNotFound => "no rows returned by a query that expected to return at least one row"
  | columnNotFound column => "no column found for name: " ++ column
  | columnDecode index source =>
    "error occurred while decoding column " ++ index ++ ": " ++ source
  | external text => text

end DataAccess
