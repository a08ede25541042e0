namespace Stagecraft.Script

def libraryLines : List String := [
  "// Declarations visible to story scripts.",
  "//",
  "// Scripts are compiled without the TypeScript default library, so the",
  "// global types the compiler requires are declared here as well.",
  "",
  "interface Array<T> \x7b",
  "    readonly length: number;",
  "    [n: number]: T;",
  "    push(...items: T[]): number;",
  "    pop(): T | undefined;",
  "    indexOf(searchElement: T, fromIndex?: number): number;",
  "    includes(searchElement: T, fromIndex?: number): boolean;",
  "    join(separator?: string): string;",
  "    slice(start?: number, end?: number): T[];",
  "    map<U>(callbackfn: (value: T, index: number) => U): U[];",
  "    filter(predicate: (value: T, index: number) => boolean): T[];",
  "    forEach(callbackfn: (value: T, index: number) => void): void;",
  "\x7d",
  "interface ReadonlyArray<T> \x7b",
  "    readonly length: number;",
  "    readonly [n: number]: T;",
  "\x7d",
  "interface Boolean \x7b\x7d",
  "interface Function \x7b\x7d",
  "interface CallableFunction extends Function \x7b\x7d",
  "interface NewableFunction extends Function \x7b\x7d",
  "interface IArguments \x7b",
  "    readonly length: number;",
  "    [index: number]: any;",
  "\x7d",
  "interface Number \x7b",
  "    toFixed(fractionDigits?: number): string;",
  "    toString(radix?: number): string;",
  "\x7d",
  "interface Object \x7b\x7d",
  "interface RegExp \x7b\x7d",
  "interface String \x7b",
  "    readonly length: number;",
  "    charAt(pos: number): string;",
  "    includes(searchString: string, position?: number): boolean;",
  "    indexOf(searchString: string, position?: number): number;",
  "    slice(start?: number, end?: number): string;",
  "    split(separator: string, limit?: number): string[];",
  "    startsWith(searchString: string, position?: number): boolean;",
  "    toLowerCase(): string;",
  "    toUpperCase(): string;",
  "    trim(): string;",
  "\x7d",
  "interface TemplateStringsArray extends ReadonlyArray<string> \x7b",
  "    readonly raw: readonly string[];",
  "\x7d",
  "interface PromiseLike<T> \x7b",
  "    then<R>(onfulfilled?: (value: T) => R | PromiseLike<R>): PromiseLike<R>;",
  "\x7d",
  "interface Promise<T> \x7b",
  "    then<R>(onfulfilled?: (value: T) => R | PromiseLike<R>): Promise<R>;",
  "\x7d",
  "",
  "declare namespace Math \x7b",
  "    function abs(x: number): number;",
  "    function floor(x: number): number;",
  "    function max(...values: number[]): number;",
  "    function min(...values: number[]): number;",
  "    function random(): number;",
  "    function round(x: number): number;",
  "\x7d",
  "",
  "// Story API",
  "",
  "declare type Locale = \"jp\" | \"en\" | \"tw\" | \"cn\" | \"kr\";",
  "",
  "declare type PositionBase =",
  "    | \"leftOutside\" | \"left\" | \"leftInside\" | \"leftBottom\" | \"leftInsideBottom\"",
  "    | \"center\" | \"centerBottom\"",
  "    | \"rightOutside\" | \"right\" | \"rightInside\" | \"rightBottom\" | \"rightInsideBottom\";",
  "",
  "declare interface Position \x7b",
  "    base: PositionBase;",
  "    offsetX: number;",
  "\x7d",
  "",
  "declare class Character \x7b",
  "    constructor(id: number);",
  "    readonly id: number;",
  "    readonly name: string;",
  "\x7d",
  "",
  "declare const locale: Locale;",
  "",
  "declare function say(text: string, speaker: Character): void;",
  "declare function telop(text: string): void;",
  "declare function show(character: Character, modelPath: string, position: Position): void;",
  "declare function hide(character: Character): void;",
  "declare function move(character: Character, position: Position): void;",
  "declare function act(character: Character, motion: string): void;",
  "declare function express(character: Character, expression: string): void;",
  "declare function changeBackground(path: string): void;",
  "declare function changeBGM(path: string): void;",
  "declare function changeSE(path: string): void;",
  "declare function delay(seconds: number): void;",
  "declare function waitForTap(): void;"]

def standardLibrary : String := String.join (libraryLines.map (· ++ "\n"))

end Stagecraft.Script
