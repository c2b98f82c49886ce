import LiquidationDrill.Value.Arithmetic

/-!
# The liquidator's command line

- `Launch.Options`: how the liquidator is to run;
- `Launch.Options.argv`: the arguments that say so, if all values can be shown.
-/

namespace LiquidationDrill.Launch

/-- How the liquidator is to run. The fields whose default is null are left out of the arguments while they are. -/
structure Options where
  /-- The path of the configuration file. -/
  config : Text
  /-- Where the node listens. -/
  url : Value
  chainId : Value
  /-- The path of the file with the private key. -/
  privateKey : Text
  gasBoost : Value := .int 10
  /-- Stops after one round. -/
  oneShot : Value := .bool true
  jsonLog : Value := .bool true
  /-- The path of the file that keeps the state. -/
  file : Value := ("/dev/null" : Text)
  interval : Value := .null
  multicallBatchSize : Value := .null
  minRatio : Value := .null
  bumpGasDelay : Value := .null
  startBlock : Value := .null
  instanceName : Value := .null

namespace Options

/-- A flag and the text of its value. -/
def taking (flag : Text) (value : Value) : Except Value.Fault (List Value) :=
  value.shown.map fun text => [.string flag, .string text]

/-- A flag and the text of its value, unless that is null. -/
def optional (flag : Text) (value : Value) : Except Value.Fault (List Value) :=
  match value with
  | .null => .ok []
  | value => taking flag value

/-- A flag without a value, if it is on. -/
def switch (flag : Text) (isOn : Value) : Except Value.Fault (List Value) :=
  .ok (if isOn.isTruthy then [flag] else [])

/-- What stands for the options one after the other. All of it is text but the address of the node, which is passed on
as it is. -/
def parts (options : Options) : List (Except Value.Fault (List Value)) :=
  [taking "-c" options.config,
    .ok [.string "-u", options.url],
    taking "-C" options.chainId,
    taking "-p" options.privateKey,
    taking "--gas-boost" options.gasBoost,
    optional "--interval" options.interval,
    optional "--multicall-batch-size" options.multicallBatchSize,
    optional "--min-ratio" options.minRatio,
    optional "--bump-gas-delay" options.bumpGasDelay,
    optional "--start-block" options.startBlock,
    optional "--instance-name" options.instanceName,
    switch "--one-shot" options.oneShot,
    switch "--json-log" options.jsonLog,
    taking "--file" options.file]

/-- The arguments for the liquidator. -/
def argv (options : Options) : Except Value.Fault (List Value) := (options.parts.mapM id).map List.flatten

end Options

end LiquidationDrill.Launch
