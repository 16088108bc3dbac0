import DreamJournal.Text.Expansion

/-!
# Repair tables

Characters that stand in texts by accident of a typesetter, a keyboard or an encoding, and what
was meant by them: joined letters, letters in unusual widths, the names of characters in markup,
and the printable characters that an old encoding has in the place of controls.
-/
namespace DreamJournal.Text

/-- Letters that are joined into one character. -/
def ligatures : List Expansion := Expansion.readAll
  ["132>49-4A 133>69-6A 149>2BC-6E 1C4>44-17D 1C5>44-17E 1C6>64-17E 1C7>4C-4A 1C8>4C-6A",
   "1C9>6C-6A 1CA>4E-4A 1CB>4E-6A 1CC>6E-6A 1F1>44-5A 1F2>44-7A 1F3>64-7A FB00>66-66 FB01>66-69",
   "FB02>66-6C FB03>66-66-69 FB04>66-66-6C FB05>17F-74 FB06>73-74"]

/-- Characters in full or half width, with the ordinary ones. -/
def widths : List Expansion := Expansion.readAll
  ["3000>20 FF01>21 FF02>22 FF03>23 FF04>24 FF05>25 FF06>26 FF07>27 FF08>28 FF09>29 FF0A>2A",
   "FF0B>2B FF0C>2C FF0D>2D FF0E>2E FF0F>2F FF10>30 FF11>31 FF12>32 FF13>33 FF14>34 FF15>35",
   "FF16>36 FF17>37 FF18>38 FF19>39 FF1A>3A FF1B>3B FF1C>3C FF1D>3D FF1E>3E FF1F>3F FF20>40",
   "FF21>41 FF22>42 FF23>43 FF24>44 FF25>45 FF26>46 FF27>47 FF28>48 FF29>49 FF2A>4A FF2B>4B",
   "FF2C>4C FF2D>4D FF2E>4E FF2F>4F FF30>50 FF31>51 FF32>52 FF33>53 FF34>54 FF35>55 FF36>56",
   "FF37>57 FF38>58 FF39>59 FF3A>5A FF3B>5B FF3C>5C FF3D>5D FF3E>5E FF3F>5F FF40>60 FF41>61",
   "FF42>62 FF43>63 FF44>64 FF45>65 FF46>66 FF47>67 FF48>68 FF49>69 FF4A>6A FF4B>6B FF4C>6C",
   "FF4D>6D FF4E>6E FF4F>6F FF50>70 FF51>71 FF52>72 FF53>73 FF54>74 FF55>75 FF56>76 FF57>77",
   "FF58>78 FF59>79 FF5A>7A FF5B>7B FF5C>7C FF5D>7D FF5E>7E FF5F>2985 FF60>2986 FF61>3002",
   "FF62>300C FF63>300D FF64>3001 FF65>30FB FF66>30F2 FF67>30A1 FF68>30A3 FF69>30A5 FF6A>30A7",
   "FF6B>30A9 FF6C>30E3 FF6D>30E5 FF6E>30E7 FF6F>30C3 FF70>30FC FF71>30A2 FF72>30A4 FF73>30A6",
   "FF74>30A8 FF75>30AA FF76>30AB FF77>30AD FF78>30AF FF79>30B1 FF7A>30B3 FF7B>30B5 FF7C>30B7",
   "FF7D>30B9 FF7E>30BB FF7F>30BD FF80>30BF FF81>30C1 FF82>30C4 FF83>30C6 FF84>30C8 FF85>30CA",
   "FF86>30CB FF87>30CC FF88>30CD FF89>30CE FF8A>30CF FF8B>30D2 FF8C>30D5 FF8D>30D8 FF8E>30DB",
   "FF8F>30DE FF90>30DF FF91>30E0 FF92>30E1 FF93>30E2 FF94>30E4 FF95>30E6 FF96>30E8 FF97>30E9",
   "FF98>30EA FF99>30EB FF9A>30EC FF9B>30ED FF9C>30EF FF9D>30F3 FF9E>3099 FF9F>309A FFA0>1160",
   "FFA1>1100 FFA2>1101 FFA3>11AA FFA4>1102 FFA5>11AC FFA6>11AD FFA7>1103 FFA8>1104 FFA9>1105",
   "FFAA>11B0 FFAB>11B1 FFAC>11B2 FFAD>11B3 FFAE>11B4 FFAF>11B5 FFB0>111A FFB1>1106 FFB2>1107",
   "FFB3>1108 FFB4>1121 FFB5>1109 FFB6>110A FFB7>110B FFB8>110C FFB9>110D FFBA>110E FFBB>110F",
   "FFBC>1110 FFBD>1111 FFBE>1112 FFC2>1161 FFC3>1162 FFC4>1163 FFC5>1164 FFC6>1165 FFC7>1166",
   "FFCA>1167 FFCB>1168 FFCC>1169 FFCD>116A FFCE>116B FFCF>116C FFD2>116D FFD3>116E FFD4>116F",
   "FFD5>1170 FFD6>1171 FFD7>1172 FFDA>1173 FFDB>1174 FFDC>1175 FFE0>A2 FFE1>A3 FFE2>AC",
   "FFE3>20-304 FFE4>A6 FFE5>A5 FFE6>20A9 FFE8>2502 FFE9>2190 FFEA>2191 FFEB>2192 FFEC>2193",
   "FFED>25A0 FFEE>25CB"]

/-- The printable characters in the place of the second block of controls. -/
def printableControls : List Expansion := Expansion.readAll
  ["80>20AC 82>201A 83>192 84>201E 85>2026 86>2020 87>2021 88>2C6 89>2030 8A>160 8B>2039 8C>152",
   "8E>17D 91>2018 92>2019 93>201C 94>201D 95>2022 96>2013 97>2014 98>2DC 99>2122 9A>161 9B>203A",
   "9C>153 9E>17E 9F>178"]

/-- The names of characters in markup, each with its characters. -/
def characterNames : List (Text × Text) := List.map (fun entry =>
    let (name, codes) := (cut? '=' entry).getD (entry, [])
    (name, (splitOn '-' codes).map fun code => Char.ofNat (hexValue code))) <|
  List.flatMap (fun row => splitOn ' ' (of row))
  ["AACUTE=C1 ABREVE=102 AC=223E ACD=223F ACIRC=C2 ACUTE=B4 ACY=410 AELIG=C6 AElig=C6 AF=2061",
   "AFR=1D51E AGRAVE=C0 ALEFSYM=2135 ALEPH=2135 ALPHA=391 AMACR=100 AMALG=2A3F AMP=26 AND=2227",
   "ANDAND=2A55 ANDD=2A5C ANDSLOPE=2A58 ANDV=2A5A ANG=2220 ANGE=29A4 ANGLE=2220 ANGMSD=2221",
   "ANGMSDAA=29A8 ANGMSDAB=29A9 ANGMSDAC=29AA ANGMSDAD=29AB ANGMSDAE=29AC ANGMSDAF=29AD",
   "ANGMSDAG=29AE ANGMSDAH=29AF ANGRT=221F ANGRTVB=22BE ANGRTVBD=299D ANGSPH=2222 ANGST=C5",
   "ANGZARR=237C AOGON=104 AOPF=1D552 AP=2248 APACIR=2A6F APE=224A APID=224B APOS=27 APPROX=2248",
   "APPROXEQ=224A ARING=C5 ASCR=1D4B6 AST=2A ASYMP=2248 ASYMPEQ=224D ATILDE=C3 AUML=C4",
   "AWCONINT=2233 AWINT=2A11 Aacute=C1 Abreve=102 Acirc=C2 Acy=410 Afr=1D504 Agrave=C0 Alpha=391",
   "Amacr=100 And=2A53 Aogon=104 Aopf=1D538 ApplyFunction=2061 Aring=C5 Ascr=1D49C Assign=2254",
   "Atilde=C3 Auml=C4 BACKCONG=224C BACKEPSILON=3F6 BACKPRIME=2035 BACKSIM=223D BACKSIMEQ=22CD",
   "BARVEE=22BD BARWED=2305 BARWEDGE=2305 BBRK=23B5 BBRKTBRK=23B6 BCONG=224C BCY=411 BDQUO=201E",
   "BECAUS=2235 BECAUSE=2235 BEMPTYV=29B0 BEPSI=3F6 BERNOU=212C BETA=392 BETH=2136 BETWEEN=226C",
   "BFR=1D51F BIGCAP=22C2 BIGCIRC=25EF BIGCUP=22C3 BIGODOT=2A00 BIGOPLUS=2A01 BIGOTIMES=2A02",
   "BIGSQCUP=2A06 BIGSTAR=2605 BIGTRIANGLEDOWN=25BD BIGTRIANGLEUP=25B3 BIGUPLUS=2A04 BIGVEE=22C1",
   "BIGWEDGE=22C0 BKAROW=290D BLACKLOZENGE=29EB BLACKSQUARE=25AA BLACKTRIANGLE=25B4",
   "BLACKTRIANGLEDOWN=25BE BLACKTRIANGLELEFT=25C2 BLACKTRIANGLERIGHT=25B8 BLANK=2423 BLK12=2592",
   "BLK14=2591 BLK34=2593 BLOCK=2588 BNE=3D-20E5 BNEQUIV=2261-20E5 BNOT=2310 BOPF=1D553 BOT=22A5",
   "BOTTOM=22A5 BOWTIE=22C8 BOXBOX=29C9 BOXDL=2510 BOXDR=250C BOXH=2500 BOXHD=252C BOXHU=2534",
   "BOXMINUS=229F BOXPLUS=229E BOXTIMES=22A0 BOXUL=2518 BOXUR=2514 BOXV=2502 BOXVH=253C",
   "BOXVL=2524 BOXVR=251C BPRIME=2035 BREVE=2D8 BRVBAR=A6 BSCR=1D4B7 BSEMI=204F BSIM=223D",
   "BSIME=22CD BSOL=5C BSOLB=29C5 BSOLHSUB=27C8 BULL=2022 BULLET=2022 BUMP=224E BUMPE=224F",
   "BUMPEQ=224F Backslash=2216 Barv=2AE7 Barwed=2306 Bcy=411 Because=2235 Bernoullis=212C",
   "Beta=392 Bfr=1D505 Bopf=1D539 Breve=2D8 Bscr=212C Bumpeq=224E CACUTE=106 CAP=2229",
   "CAPAND=2A44 CAPBRCUP=2A49 CAPCAP=2A4B CAPCUP=2A47 CAPDOT=2A40 CAPS=2229-FE00 CARET=2041",
   "CARON=2C7 CCAPS=2A4D CCARON=10C CCEDIL=C7 CCIRC=108 CCUPS=2A4C CCUPSSM=2A50 CDOT=10A",
   "CEDIL=B8 CEMPTYV=29B2 CENT=A2 CENTERDOT=B7 CFR=1D520 CHCY=427 CHECK=2713 CHECKMARK=2713",
   "CHI=3A7 CHcy=427 CIR=25CB CIRC=2C6 CIRCEQ=2257 CIRCLEARROWLEFT=21BA CIRCLEARROWRIGHT=21BB",
   "CIRCLEDAST=229B CIRCLEDCIRC=229A CIRCLEDDASH=229D CIRE=2257 CIRFNINT=2A10 CIRMID=2AEF",
   "CIRSCIR=29C2 CLUBS=2663 CLUBSUIT=2663 COLON=3A COLONE=2254 COLONEQ=2254 COMMA=2C COMMAT=40",
   "COMP=2201 COMPFN=2218 COMPLEMENT=2201 COMPLEXES=2102 CONG=2245 CONGDOT=2A6D CONINT=222E",
   "COPF=1D554 COPROD=2210 COPY=A9 CRARR=21B5 CROSS=2717 CSCR=1D4B8 CSUB=2ACF CSUBE=2AD1",
   "CSUP=2AD0 CSUPE=2AD2 CTDOT=22EF CUDARRL=2938 CUDARRR=2935 CUEPR=22DE CUESC=22DF CULARR=21B6",
   "CULARRP=293D CUP=222A CUPBRCAP=2A48 CUPCAP=2A46 CUPCUP=2A4A CUPDOT=228D CUPOR=2A45",
   "CUPS=222A-FE00 CURARR=21B7 CURARRM=293C CURLYEQPREC=22DE CURLYEQSUCC=22DF CURLYVEE=22CE",
   "CURLYWEDGE=22CF CURREN=A4 CURVEARROWLEFT=21B6 CURVEARROWRIGHT=21B7 CUVEE=22CE CUWED=22CF",
   "CWCONINT=2232 CWINT=2231 CYLCTY=232D Cacute=106 Cap=22D2 CapitalDifferentialD=2145",
   "Cayleys=212D Ccaron=10C Ccedil=C7 Ccirc=108 Cconint=2230 Cdot=10A Cedilla=B8 CenterDot=B7",
   "Cfr=212D Chi=3A7 CircleDot=2299 CircleMinus=2296 CirclePlus=2295 CircleTimes=2297",
   "ClockwiseContourIntegral=2232 CloseCurlyDoubleQuote=201D CloseCurlyQuote=2019 Colon=2237",
   "Colone=2A74 Congruent=2261 Conint=222F ContourIntegral=222E Copf=2102 Coproduct=2210",
   "Cross=2A2F Cscr=1D49E Cup=22D3 CupCap=224D DAGGER=2020 DALETH=2138 DARR=2193 DASH=2010",
   "DASHV=22A3 DBKAROW=290F DBLAC=2DD DCARON=10E DCY=414 DD=2145 DDAGGER=2021 DDARR=21CA",
   "DDOTSEQ=2A77 DDotrahd=2911 DEG=B0 DELTA=394 DEMPTYV=29B1 DFISHT=297F DFR=1D521 DHARL=21C3",
   "DHARR=21C2 DIAM=22C4 DIAMOND=22C4 DIAMONDSUIT=2666 DIAMS=2666 DIE=A8 DIGAMMA=3DC DISIN=22F2",
   "DIV=F7 DIVIDE=F7 DIVIDEONTIMES=22C7 DIVONX=22C7 DJCY=402 DJcy=402 DLCORN=231E DLCROP=230D",
   "DOLLAR=24 DOPF=1D555 DOT=2D9 DOTEQ=2250 DOTEQDOT=2251 DOTMINUS=2238 DOTPLUS=2214",
   "DOTSQUARE=22A1 DOUBLEBARWEDGE=2306 DOWNARROW=2193 DOWNDOWNARROWS=21CA DOWNHARPOONLEFT=21C3",
   "DOWNHARPOONRIGHT=21C2 DRBKAROW=2910 DRCORN=231F DRCROP=230C DSCR=1D4B9 DSCY=405 DSOL=29F6",
   "DSTROK=110 DScy=405 DTDOT=22F1 DTRI=25BF DTRIF=25BE DUARR=21F5 DUHAR=296F DWANGLE=29A6",
   "DZCY=40F DZIGRARR=27FF DZcy=40F Dagger=2021 Darr=21A1 Dashv=2AE4 Dcaron=10E Dcy=414 Del=2207",
   "Delta=394 Dfr=1D507 DiacriticalAcute=B4 DiacriticalDot=2D9 DiacriticalDoubleAcute=2DD",
   "DiacriticalGrave=60 DiacriticalTilde=2DC Diamond=22C4 DifferentialD=2146 Dopf=1D53B Dot=A8",
   "DotDot=20DC DotEqual=2250 DoubleContourIntegral=222F DoubleDot=A8 DoubleDownArrow=21D3",
   "DoubleLeftArrow=21D0 DoubleLeftRightArrow=21D4 DoubleLeftTee=2AE4 DoubleLongLeftArrow=27F8",
   "DoubleLongLeftRightArrow=27FA DoubleLongRightArrow=27F9 DoubleRightArrow=21D2",
   "DoubleRightTee=22A8 DoubleUpArrow=21D1 DoubleUpDownArrow=21D5 DoubleVerticalBar=2225",
   "DownArrow=2193 DownArrowBar=2913 DownArrowUpArrow=21F5 DownBreve=311",
   "DownLeftRightVector=2950 DownLeftTeeVector=295E DownLeftVector=21BD DownLeftVectorBar=2956",
   "DownRightTeeVector=295F DownRightVector=21C1 DownRightVectorBar=2957 DownTee=22A4",
   "DownTeeArrow=21A7 Downarrow=21D3 Dscr=1D49F Dstrok=110 EACUTE=C9 EASTER=2A6E ECARON=11A",
   "ECIR=2256 ECIRC=CA ECOLON=2255 ECY=42D EDOT=116 EE=2147 EFR=1D522 EG=2A9A EGRAVE=C8 EGS=2A96",
   "EGSDOT=2A98 EL=2A99 ELINTERS=23E7 ELL=2113 ELS=2A95 ELSDOT=2A97 EMACR=112 EMPTY=2205",
   "EMPTYSET=2205 EMPTYV=2205 EMSP=2003 EMSP13=2004 EMSP14=2005 ENG=14A ENSP=2002 EOGON=118",
   "EOPF=1D556 EPAR=22D5 EPARSL=29E3 EPLUS=2A71 EPSI=395 EPSILON=395 EPSIV=395 EQCIRC=2256",
   "EQCOLON=2255 EQSIM=2242 EQSLANTGTR=2A96 EQSLANTLESS=2A95 EQUALS=3D EQUEST=225F EQUIV=2261",
   "EQVPARSL=29E5 ERARR=2971 ESCR=212F ESDOT=2250 ESIM=2242 ETA=397 ETH=D0 EUML=CB EURO=20AC",
   "EXCL=21 EXIST=2203 EXPECTATION=2130 EXPONENTIALE=2147 Eacute=C9 Ecaron=11A Ecirc=CA Ecy=42D",
   "Edot=116 Efr=1D508 Egrave=C8 Element=2208 Emacr=112 EmptySmallSquare=25FB",
   "EmptyVerySmallSquare=25AB Eogon=118 Eopf=1D53C Epsilon=395 Equal=2A75 EqualTilde=2242",
   "Equilibrium=21CC Escr=2130 Esim=2A73 Eta=397 Euml=CB Exists=2203 ExponentialE=2147",
   "FALLINGDOTSEQ=2252 FCY=424 FEMALE=2640 FFILIG=46-46-49 FFLIG=46-46 FFLLIG=46-46-4C FFR=1D523",
   "FILIG=46-49 FJLIG=46-4A FLAT=266D FLLIG=46-4C FLTNS=25B1 FNOF=191 FOPF=1D557 FORALL=2200",
   "FORK=22D4 FORKV=2AD9 FPARTINT=2A0D FRAC12=BD FRAC13=2153 FRAC14=BC FRAC15=2155 FRAC16=2159",
   "FRAC18=215B FRAC23=2154 FRAC25=2156 FRAC34=BE FRAC35=2157 FRAC38=215C FRAC45=2158",
   "FRAC56=215A FRAC58=215D FRAC78=215E FRASL=2044 FROWN=2322 FSCR=1D4BB Fcy=424 Ffr=1D509",
   "FilledSmallSquare=25FC FilledVerySmallSquare=25AA Fopf=1D53D ForAll=2200 Fouriertrf=2131",
   "Fscr=2131 GACUTE=1F4 GAMMA=393 GAMMAD=3DC GAP=2A86 GBREVE=11E GCIRC=11C GCY=413 GDOT=120",
   "GE=2265 GEL=22DB GEQ=2265 GEQQ=2267 GEQSLANT=2A7E GES=2A7E GESCC=2AA9 GESDOT=2A80",
   "GESDOTO=2A82 GESDOTOL=2A84 GESL=22DB-FE00 GESLES=2A94 GFR=1D524 GG=226B GGG=22D9 GIMEL=2137",
   "GJCY=403 GJcy=403 GL=2277 GLA=2AA5 GLJ=2AA4 GNAP=2A8A GNAPPROX=2A8A GNE=2A88 GNEQ=2A88",
   "GNEQQ=2269 GNSIM=22E7 GOPF=1D558 GRAVE=60 GSCR=210A GSIM=2273 GSIME=2A8E GSIML=2A90 GT=3E",
   "GVERTNEQQ=2269-FE00 Gamma=393 Gammad=3DC Gbreve=11E Gcedil=122 Gcirc=11C Gcy=413 Gdot=120",
   "Gfr=1D50A Gg=22D9 Gopf=1D53E GreaterEqual=2265 GreaterEqualLess=22DB GreaterFullEqual=2267",
   "GreaterGreater=2AA2 GreaterLess=2277 GreaterSlantEqual=2A7E GreaterTilde=2273 Gscr=1D4A2",
   "Gt=226B HAIRSP=200A HALF=BD HAMILT=210B HARDCY=42A HARDcy=42A HARR=2194 HARRCIR=2948",
   "HARRW=21AD HBAR=210F HCIRC=124 HEARTS=2665 HEARTSUIT=2665 HELLIP=2026 HERCON=22B9 HFR=1D525",
   "HKSEAROW=2925 HKSWAROW=2926 HOARR=21FF HOMTHT=223B HOOKLEFTARROW=21A9 HOOKRIGHTARROW=21AA",
   "HOPF=1D559 HORBAR=2015 HSCR=1D4BD HSLASH=210F HSTROK=126 HYBULL=2043 HYPHEN=2010 Hacek=2C7",
   "Hat=5E Hcirc=124 Hfr=210C HilbertSpace=210B Hopf=210D HorizontalLine=2500 Hscr=210B",
   "Hstrok=126 HumpDownHump=224E HumpEqual=224F IACUTE=CD IC=2063 ICIRC=CE ICY=418 IECY=415",
   "IEXCL=A1 IEcy=415 IFF=21D4 IFR=1D526 IGRAVE=CC II=2148 IIIINT=2A0C IIINT=222D IINFIN=29DC",
   "IIOTA=2129 IJLIG=132 IJlig=132 IMACR=12A IMAGE=2111 IMAGLINE=2110 IMAGPART=2111 IMATH=49",
   "IMOF=22B7 IMPED=1B5 IN=2208 INCARE=2105 INFIN=221E INFINTIE=29DD INODOT=49 INT=222B",
   "INTCAL=22BA INTEGERS=2124 INTERCAL=22BA INTLARHK=2A17 INTPROD=2A3C IOCY=401 IOGON=12E",
   "IOPF=1D55A IOTA=399 IOcy=401 IPROD=2A3C IQUEST=BF ISCR=1D4BE ISIN=2208 ISINDOT=22F5",
   "ISINS=22F4 ISINSV=22F3 ISINV=2208 IT=2062 ITILDE=128 IUKCY=406 IUML=CF Iacute=CD Icirc=CE",
   "Icy=418 Idot=130 Ifr=2111 Igrave=CC Im=2111 Imacr=12A ImaginaryI=2148 Implies=21D2 Int=222C",
   "Integral=222B Intersection=22C2 InvisibleComma=2063 InvisibleTimes=2062 Iogon=12E Iopf=1D540",
   "Iota=399 Iscr=2110 Itilde=128 Iukcy=406 Iuml=CF JCIRC=134 JCY=419 JFR=1D527 JMATH=237",
   "JOPF=1D55B JSCR=1D4BF JSERCY=408 JUKCY=404 Jcirc=134 Jcy=419 Jfr=1D50D Jopf=1D541 Jscr=1D4A5",
   "Jsercy=408 Jukcy=404 KAPPA=39A KAPPAV=39A KCEDIL=136 KCY=41A KFR=1D528 KGREEN=138 KHCY=425",
   "KHcy=425 KJCY=40C KJcy=40C KOPF=1D55C KSCR=1D4C0 Kappa=39A Kcedil=136 Kcy=41A Kfr=1D50E",
   "Kopf=1D542 Kscr=1D4A6 LACUTE=139 LAEMPTYV=29B4 LAGRAN=2112 LAMBDA=39B LANG=27E8 LANGD=2991",
   "LANGLE=27E8 LAP=2A85 LAQUO=AB LARR=2190 LARRB=21E4 LARRBFS=291F LARRFS=291D LARRHK=21A9",
   "LARRLP=21AB LARRPL=2939 LARRSIM=2973 LARRTL=21A2 LAT=2AAB LATAIL=2919 LATE=2AAD",
   "LATES=2AAD-FE00 LBARR=290C LBBRK=2772 LBRACE=7B LBRACK=5B LBRKE=298B LBRKSLD=298F",
   "LBRKSLU=298D LCARON=13D LCEDIL=13B LCEIL=2308 LCUB=7B LCY=41B LDCA=2936 LDQUO=201C",
   "LDQUOR=201E LDRDHAR=2967 LDRUSHAR=294B LDSH=21B2 LE=2264 LEFTARROW=2190 LEFTARROWTAIL=21A2",
   "LEFTHARPOONDOWN=21BD LEFTHARPOONUP=21BC LEFTLEFTARROWS=21C7 LEFTRIGHTARROW=2194",
   "LEFTRIGHTARROWS=21C6 LEFTRIGHTHARPOONS=21CB LEFTRIGHTSQUIGARROW=21AD LEFTTHREETIMES=22CB",
   "LEG=22DA LEQ=2264 LEQQ=2266 LEQSLANT=2A7D LES=2A7D LESCC=2AA8 LESDOT=2A7F LESDOTO=2A81",
   "LESDOTOR=2A83 LESG=22DA-FE00 LESGES=2A93 LESSAPPROX=2A85 LESSDOT=22D6 LESSEQGTR=22DA",
   "LESSEQQGTR=2A8B LESSGTR=2276 LESSSIM=2272 LFISHT=297C LFLOOR=230A LFR=1D529 LG=2276",
   "LHARD=21BD LHARU=21BC LHARUL=296A LHBLK=2584 LJCY=409 LJcy=409 LL=226A LLARR=21C7",
   "LLCORNER=231E LLHARD=296B LLTRI=25FA LMIDOT=13F LMOUST=23B0 LMOUSTACHE=23B0 LNAP=2A89",
   "LNAPPROX=2A89 LNE=2A87 LNEQ=2A87 LNEQQ=2268 LNSIM=22E6 LOANG=27EC LOARR=21FD LOBRK=27E6",
   "LONGLEFTARROW=27F5 LONGLEFTRIGHTARROW=27F7 LONGMAPSTO=27FC LONGRIGHTARROW=27F6",
   "LOOPARROWLEFT=21AB LOOPARROWRIGHT=21AC LOPAR=2985 LOPF=1D55D LOPLUS=2A2D LOTIMES=2A34",
   "LOWAST=2217 LOWBAR=5F LOZ=25CA LOZENGE=25CA LOZF=29EB LPAR=28 LPARLT=2993 LRARR=21C6",
   "LRCORNER=231F LRHAR=21CB LRHARD=296D LRM=200E LRTRI=22BF LSAQUO=2039 LSCR=1D4C1 LSH=21B0",
   "LSIM=2272 LSIME=2A8D LSIMG=2A8F LSQB=5B LSQUO=2018 LSQUOR=201A LSTROK=141 LT=3C",
   "LURDSHAR=294A LURUHAR=2966 LVERTNEQQ=2268-FE00 Lacute=139 Lambda=39B Lang=27EA",
   "Laplacetrf=2112 Larr=219E Lcaron=13D Lcedil=13B Lcy=41B LeftAngleBracket=27E8 LeftArrow=2190",
   "LeftArrowBar=21E4 LeftArrowRightArrow=21C6 LeftCeiling=2308 LeftDoubleBracket=27E6",
   "LeftDownTeeVector=2961 LeftDownVector=21C3 LeftDownVectorBar=2959 LeftFloor=230A",
   "LeftRightArrow=2194 LeftRightVector=294E LeftTee=22A3 LeftTeeArrow=21A4 LeftTeeVector=295A",
   "LeftTriangle=22B2 LeftTriangleBar=29CF LeftTriangleEqual=22B4 LeftUpDownVector=2951",
   "LeftUpTeeVector=2960 LeftUpVector=21BF LeftUpVectorBar=2958 LeftVector=21BC",
   "LeftVectorBar=2952 Leftarrow=21D0 Leftrightarrow=21D4 LessEqualGreater=22DA",
   "LessFullEqual=2266 LessGreater=2276 LessLess=2AA1 LessSlantEqual=2A7D LessTilde=2272",
   "Lfr=1D50F Ll=22D8 Lleftarrow=21DA Lmidot=13F LongLeftArrow=27F5 LongLeftRightArrow=27F7",
   "LongRightArrow=27F6 Longleftarrow=27F8 Longleftrightarrow=27FA Longrightarrow=27F9",
   "Lopf=1D543 LowerLeftArrow=2199 LowerRightArrow=2198 Lscr=2112 Lsh=21B0 Lstrok=141 Lt=226A",
   "MACR=AF MALE=2642 MALT=2720 MALTESE=2720 MAP=21A6 MAPSTO=21A6 MAPSTODOWN=21A7",
   "MAPSTOLEFT=21A4 MAPSTOUP=21A5 MARKER=25AE MCOMMA=2A29 MCY=41C MDASH=2014 MEASUREDANGLE=2221",
   "MFR=1D52A MHO=2127 MICRO=39C MID=2223 MIDAST=2A MIDCIR=2AF0 MIDDOT=B7 MINUS=2212 MINUSB=229F",
   "MINUSD=2238 MINUSDU=2A2A MLCP=2ADB MLDR=2026 MNPLUS=2213 MODELS=22A7 MOPF=1D55E MP=2213",
   "MSCR=1D4C2 MSTPOS=223E MU=39C MULTIMAP=22B8 MUMAP=22B8 Map=2905 Mcy=41C MediumSpace=205F",
   "Mellintrf=2133 Mfr=1D510 MinusPlus=2213 Mopf=1D544 Mscr=2133 Mu=39C NABLA=2207 NACUTE=143",
   "NANG=2220-20D2 NAP=2249 NAPID=224B-338 NAPOS=2BC-4E NAPPROX=2249 NATUR=266E NATURAL=266E",
   "NATURALS=2115 NBSP=A0 NBUMP=224E-338 NBUMPE=224F-338 NCAP=2A43 NCARON=147 NCEDIL=145",
   "NCONG=2247 NCONGDOT=2A6D-338 NCUP=2A42 NCY=41D NDASH=2013 NE=2260 NEARHK=2924 NEARR=2197",
   "NEARROW=2197 NEDOT=2250-338 NEQUIV=2262 NESEAR=2928 NESIM=2242-338 NEXIST=2204 NEXISTS=2204",
   "NFR=1D52B NGE=2271 NGEQ=2271 NGEQQ=2267-338 NGEQSLANT=2A7E-338 NGES=2A7E-338 NGSIM=2275",
   "NGT=226F NGTR=226F NHARR=21AE NHPAR=2AF2 NI=220B NIS=22FC NISD=22FA NIV=220B NJCY=40A",
   "NJcy=40A NLARR=219A NLDR=2025 NLE=2270 NLEFTARROW=219A NLEFTRIGHTARROW=21AE NLEQ=2270",
   "NLEQQ=2266-338 NLEQSLANT=2A7D-338 NLES=2A7D-338 NLESS=226E NLSIM=2274 NLT=226E NLTRI=22EA",
   "NLTRIE=22EC NMID=2224 NOPF=1D55F NOT=AC NOTIN=2209 NOTINDOT=22F5-338 NOTINVA=2209",
   "NOTINVB=22F7 NOTINVC=22F6 NOTNI=220C NOTNIVA=220C NOTNIVB=22FE NOTNIVC=22FD NPAR=2226",
   "NPARALLEL=2226 NPARSL=2AFD-20E5 NPART=2202-338 NPOLINT=2A14 NPR=2280 NPRCUE=22E0",
   "NPRE=2AAF-338 NPREC=2280 NPRECEQ=2AAF-338 NRARR=219B NRARRC=2933-338 NRARRW=219D-338",
   "NRIGHTARROW=219B NRTRI=22EB NRTRIE=22ED NSC=2281 NSCCUE=22E1 NSCE=2AB0-338 NSCR=1D4C3",
   "NSHORTMID=2224 NSHORTPARALLEL=2226 NSIM=2241 NSIME=2244 NSIMEQ=2244 NSMID=2224 NSPAR=2226",
   "NSQSUBE=22E2 NSQSUPE=22E3 NSUB=2284 NSUBE=2288 NSUBSET=2282-20D2 NSUBSETEQ=2288",
   "NSUBSETEQQ=2AC5-338 NSUCC=2281 NSUCCEQ=2AB0-338 NSUP=2285 NSUPE=2289 NSUPSET=2283-20D2",
   "NSUPSETEQ=2289 NSUPSETEQQ=2AC6-338 NTGL=2279 NTILDE=D1 NTLG=2278 NTRIANGLELEFT=22EA",
   "NTRIANGLELEFTEQ=22EC NTRIANGLERIGHT=22EB NTRIANGLERIGHTEQ=22ED NU=39D NUM=23 NUMERO=2116",
   "NUMSP=2007 NVAP=224D-20D2 NVDASH=22AC NVGE=2265-20D2 NVGT=3E-20D2 NVINFIN=29DE",
   "NVLE=2264-20D2 NVLT=3C-20D2 NVLTRIE=22B4-20D2 NVRTRIE=22B5-20D2 NVSIM=223C-20D2 NWARHK=2923",
   "NWARR=2196 NWARROW=2196 NWNEAR=2927 Nacute=143 Ncaron=147 Ncedil=145 Ncy=41D",
   "NegativeMediumSpace=200B NegativeThickSpace=200B NegativeThinSpace=200B",
   "NegativeVeryThinSpace=200B NestedGreaterGreater=226B NestedLessLess=226A NewLine=A Nfr=1D511",
   "NoBreak=2060 NonBreakingSpace=A0 Nopf=2115 Not=2AEC NotCongruent=2262 NotCupCap=226D",
   "NotDoubleVerticalBar=2226 NotElement=2209 NotEqual=2260 NotEqualTilde=2242-338",
   "NotExists=2204 NotGreater=226F NotGreaterEqual=2271 NotGreaterFullEqual=2267-338",
   "NotGreaterGreater=226B-338 NotGreaterLess=2279 NotGreaterSlantEqual=2A7E-338",
   "NotGreaterTilde=2275 NotHumpDownHump=224E-338 NotHumpEqual=224F-338 NotLeftTriangle=22EA",
   "NotLeftTriangleBar=29CF-338 NotLeftTriangleEqual=22EC NotLess=226E NotLessEqual=2270",
   "NotLessGreater=2278 NotLessLess=226A-338 NotLessSlantEqual=2A7D-338 NotLessTilde=2274",
   "NotNestedGreaterGreater=2AA2-338 NotNestedLessLess=2AA1-338 NotPrecedes=2280",
   "NotPrecedesEqual=2AAF-338 NotPrecedesSlantEqual=22E0 NotReverseElement=220C",
   "NotRightTriangle=22EB NotRightTriangleBar=29D0-338 NotRightTriangleEqual=22ED",
   "NotSquareSubset=228F-338 NotSquareSubsetEqual=22E2 NotSquareSuperset=2290-338",
   "NotSquareSupersetEqual=22E3 NotSubset=2282-20D2 NotSubsetEqual=2288 NotSucceeds=2281",
   "NotSucceedsEqual=2AB0-338 NotSucceedsSlantEqual=22E1 NotSucceedsTilde=227F-338",
   "NotSuperset=2283-20D2 NotSupersetEqual=2289 NotTilde=2241 NotTildeEqual=2244",
   "NotTildeFullEqual=2247 NotTildeTilde=2249 NotVerticalBar=2224 Nscr=1D4A9 Ntilde=D1 Nu=39D",
   "OACUTE=D3 OAST=229B OCIR=229A OCIRC=D4 OCY=41E ODASH=229D ODBLAC=150 ODIV=2A38 ODOT=2299",
   "ODSOLD=29BC OELIG=152 OElig=152 OFCIR=29BF OFR=1D52C OGON=2DB OGRAVE=D2 OGT=29C1 OHBAR=29B5",
   "OHM=3A9 OINT=222E OLARR=21BA OLCIR=29BE OLCROSS=29BB OLINE=203E OLT=29C0 OMACR=14C OMEGA=3A9",
   "OMICRON=39F OMID=29B6 OMINUS=2296 OOPF=1D560 OPAR=29B7 OPERP=29B9 OPLUS=2295 OR=2228",
   "ORARR=21BB ORD=2A5D ORDER=2134 ORDEROF=2134 ORDF=AA ORDM=BA ORIGOF=22B6 OROR=2A56",
   "ORSLOPE=2A57 ORV=2A5B OSCR=2134 OSLASH=D8 OSOL=2298 OTILDE=D5 OTIMES=2297 OTIMESAS=2A36",
   "OUML=D6 OVBAR=233D Oacute=D3 Ocirc=D4 Ocy=41E Odblac=150 Ofr=1D512 Ograve=D2 Omacr=14C",
   "Omega=3A9 Omicron=39F Oopf=1D546 OpenCurlyDoubleQuote=201C OpenCurlyQuote=2018 Or=2A54",
   "Oscr=1D4AA Oslash=D8 Otilde=D5 Otimes=2A37 Ouml=D6 OverBar=203E OverBrace=23DE",
   "OverBracket=23B4 OverParenthesis=23DC PAR=2225 PARA=B6 PARALLEL=2225 PARSIM=2AF3 PARSL=2AFD",
   "PART=2202 PCY=41F PERCNT=25 PERIOD=2E PERMIL=2030 PERP=22A5 PERTENK=2031 PFR=1D52D PHI=3A6",
   "PHIV=3A6 PHMMAT=2133 PHONE=260E PI=3A0 PITCHFORK=22D4 PIV=3A0 PLANCK=210F PLANCKH=210E",
   "PLANKV=210F PLUS=2B PLUSACIR=2A23 PLUSB=229E PLUSCIR=2A22 PLUSDO=2214 PLUSDU=2A25 PLUSE=2A72",
   "PLUSMN=B1 PLUSSIM=2A26 PLUSTWO=2A27 PM=B1 POINTINT=2A15 POPF=1D561 POUND=A3 PR=227A",
   "PRAP=2AB7 PRCUE=227C PRE=2AAF PREC=227A PRECAPPROX=2AB7 PRECCURLYEQ=227C PRECEQ=2AAF",
   "PRECNAPPROX=2AB9 PRECNEQQ=2AB5 PRECNSIM=22E8 PRECSIM=227E PRIME=2032 PRIMES=2119 PRNAP=2AB9",
   "PRNSIM=22E8 PROD=220F PROFALAR=232E PROFLINE=2312 PROFSURF=2313 PROP=221D PROPTO=221D",
   "PRSIM=227E PRUREL=22B0 PSCR=1D4C5 PSI=3A8 PUNCSP=2008 PartialD=2202 Pcy=41F Pfr=1D513",
   "Phi=3A6 Pi=3A0 PlusMinus=B1 Poincareplane=210C Popf=2119 Pr=2ABB Precedes=227A",
   "PrecedesEqual=2AAF PrecedesSlantEqual=227C PrecedesTilde=227E Prime=2033 Product=220F",
   "Proportion=2237 Proportional=221D Pscr=1D4AB Psi=3A8 QFR=1D52E QINT=2A0C QOPF=1D562",
   "QPRIME=2057 QSCR=1D4C6 QUATERNIONS=210D QUATINT=2A16 QUEST=3F QUESTEQ=225F QUOT=22 Qfr=1D514",
   "Qopf=211A Qscr=1D4AC RACE=223D-331 RACUTE=154 RADIC=221A RAEMPTYV=29B3 RANG=27E9 RANGD=2992",
   "RANGE=29A5 RANGLE=27E9 RAQUO=BB RARR=2192 RARRAP=2975 RARRB=21E5 RARRBFS=2920 RARRC=2933",
   "RARRFS=291E RARRHK=21AA RARRLP=21AC RARRPL=2945 RARRSIM=2974 RARRTL=21A3 RARRW=219D",
   "RATAIL=291A RATIO=2236 RATIONALS=211A RBARR=290D RBBRK=2773 RBRACE=7D RBRACK=5D RBRKE=298C",
   "RBRKSLD=298E RBRKSLU=2990 RBarr=2910 RCARON=158 RCEDIL=156 RCEIL=2309 RCUB=7D RCY=420",
   "RDCA=2937 RDLDHAR=2969 RDQUO=201D RDQUOR=201D RDSH=21B3 REAL=211C REALINE=211B REALPART=211C",
   "REALS=211D RECT=25AD REG=AE RFISHT=297D RFLOOR=230B RFR=1D52F RHARD=21C1 RHARU=21C0",
   "RHARUL=296C RHO=3A1 RHOV=3A1 RIGHTARROW=2192 RIGHTARROWTAIL=21A3 RIGHTHARPOONDOWN=21C1",
   "RIGHTHARPOONUP=21C0 RIGHTLEFTARROWS=21C4 RIGHTLEFTHARPOONS=21CC RIGHTRIGHTARROWS=21C9",
   "RIGHTSQUIGARROW=219D RIGHTTHREETIMES=22CC RING=2DA RISINGDOTSEQ=2253 RLARR=21C4 RLHAR=21CC",
   "RLM=200F RMOUST=23B1 RMOUSTACHE=23B1 RNMID=2AEE ROANG=27ED ROARR=21FE ROBRK=27E7 ROPAR=2986",
   "ROPF=1D563 ROPLUS=2A2E ROTIMES=2A35 RPAR=29 RPARGT=2994 RPPOLINT=2A12 RRARR=21C9 RSAQUO=203A",
   "RSCR=1D4C7 RSH=21B1 RSQB=5D RSQUO=2019 RSQUOR=2019 RTHREE=22CC RTIMES=22CA RTRI=25B9",
   "RTRIE=22B5 RTRIF=25B8 RTRILTRI=29CE RULUHAR=2968 RX=211E Racute=154 Rang=27EB Rarr=21A0",
   "Rarrtl=2916 Rcaron=158 Rcedil=156 Rcy=420 Re=211C ReverseElement=220B",
   "ReverseEquilibrium=21CB ReverseUpEquilibrium=296F Rfr=211C Rho=3A1 RightAngleBracket=27E9",
   "RightArrow=2192 RightArrowBar=21E5 RightArrowLeftArrow=21C4 RightCeiling=2309",
   "RightDoubleBracket=27E7 RightDownTeeVector=295D RightDownVector=21C2 RightDownVectorBar=2955",
   "RightFloor=230B RightTee=22A2 RightTeeArrow=21A6 RightTeeVector=295B RightTriangle=22B3",
   "RightTriangleBar=29D0 RightTriangleEqual=22B5 RightUpDownVector=294F RightUpTeeVector=295C",
   "RightUpVector=21BE RightUpVectorBar=2954 RightVector=21C0 RightVectorBar=2953",
   "Rightarrow=21D2 Ropf=211D RoundImplies=2970 Rrightarrow=21DB Rscr=211B Rsh=21B1",
   "RuleDelayed=29F4 SACUTE=15A SBQUO=201A SC=227B SCAP=2AB8 SCARON=160 SCCUE=227D SCE=2AB0",
   "SCEDIL=15E SCIRC=15C SCNAP=2ABA SCNSIM=22E9 SCPOLINT=2A13 SCSIM=227F SCY=421 SDOT=22C5",
   "SDOTB=22A1 SDOTE=2A66 SEARHK=2925 SEARR=2198 SEARROW=2198 SECT=A7 SEMI=3B SESWAR=2929",
   "SETMINUS=2216 SETMN=2216 SEXT=2736 SFR=1D530 SFROWN=2322 SHARP=266F SHCHCY=429 SHCHcy=429",
   "SHCY=428 SHORTMID=2223 SHORTPARALLEL=2225 SHY=AD SHcy=428 SIGMA=3A3 SIGMAF=3A3 SIGMAV=3A3",
   "SIM=223C SIMDOT=2A6A SIME=2243 SIMEQ=2243 SIMG=2A9E SIML=2A9D SIMNE=2246 SIMPLUS=2A24",
   "SIMRARR=2972 SLARR=2190 SMALLSETMINUS=2216 SMASHP=2A33 SMEPARSL=29E4 SMID=2223 SMILE=2323",
   "SMT=2AAA SMTE=2AAC SMTES=2AAC-FE00 SOFTCY=42C SOFTcy=42C SOL=2F SOLB=29C4 SOLBAR=233F",
   "SOPF=1D564 SPADES=2660 SPADESUIT=2660 SPAR=2225 SQCAP=2293 SQCAPS=2293-FE00 SQCUP=2294",
   "SQCUPS=2294-FE00 SQSUB=228F SQSUBE=2291 SQSUBSET=228F SQSUBSETEQ=2291 SQSUP=2290 SQSUPE=2292",
   "SQSUPSET=2290 SQSUPSETEQ=2292 SQU=25A1 SQUARE=25A1 SQUARF=25AA SQUF=25AA SRARR=2192",
   "SSCR=1D4C8 SSETMN=2216 SSMILE=2323 SSTARF=22C6 STAR=2606 STARF=2605 STRAIGHTEPSILON=395",
   "STRAIGHTPHI=3A6 STRNS=AF SUB=2282 SUBDOT=2ABD SUBE=2286 SUBEDOT=2AC3 SUBMULT=2AC1 SUBNE=228A",
   "SUBPLUS=2ABF SUBRARR=2979 SUBSET=2282 SUBSETEQ=2286 SUBSETEQQ=2AC5 SUBSETNEQ=228A",
   "SUBSETNEQQ=2ACB SUBSIM=2AC7 SUBSUB=2AD5 SUBSUP=2AD3 SUCC=227B SUCCAPPROX=2AB8",
   "SUCCCURLYEQ=227D SUCCEQ=2AB0 SUCCNAPPROX=2ABA SUCCNEQQ=2AB6 SUCCNSIM=22E9 SUCCSIM=227F",
   "SUM=2211 SUNG=266A SUP=2283 SUP1=B9 SUP2=B2 SUP3=B3 SUPDOT=2ABE SUPDSUB=2AD8 SUPE=2287",
   "SUPEDOT=2AC4 SUPHSOL=27C9 SUPHSUB=2AD7 SUPLARR=297B SUPMULT=2AC2 SUPNE=228B SUPPLUS=2AC0",
   "SUPSET=2283 SUPSETEQ=2287 SUPSETEQQ=2AC6 SUPSETNEQ=228B SUPSETNEQQ=2ACC SUPSIM=2AC8",
   "SUPSUB=2AD4 SUPSUP=2AD6 SWARHK=2926 SWARR=2199 SWARROW=2199 SWNWAR=292A SZLIG=53-53",
   "Sacute=15A Sc=2ABC Scaron=160 Scedil=15E Scirc=15C Scy=421 Sfr=1D516 ShortDownArrow=2193",
   "ShortLeftArrow=2190 ShortRightArrow=2192 ShortUpArrow=2191 Sigma=3A3 SmallCircle=2218",
   "Sopf=1D54A Sqrt=221A Square=25A1 SquareIntersection=2293 SquareSubset=228F",
   "SquareSubsetEqual=2291 SquareSuperset=2290 SquareSupersetEqual=2292 SquareUnion=2294",
   "Sscr=1D4AE Star=22C6 Sub=22D0 Subset=22D0 SubsetEqual=2286 Succeeds=227B SucceedsEqual=2AB0",
   "SucceedsSlantEqual=227D SucceedsTilde=227F SuchThat=220B Sum=2211 Sup=22D1 Superset=2283",
   "SupersetEqual=2287 Supset=22D1 TARGET=2316 TAU=3A4 TBRK=23B4 TCARON=164 TCEDIL=162 TCY=422",
   "TDOT=20DB TELREC=2315 TFR=1D531 THERE4=2234 THEREFORE=2234 THETA=398 THETASYM=398 THETAV=398",
   "THICKAPPROX=2248 THICKSIM=223C THINSP=2009 THKAP=2248 THKSIM=223C THORN=DE TILDE=2DC",
   "TIMES=D7 TIMESB=22A0 TIMESBAR=2A31 TIMESD=2A30 TINT=222D TOEA=2928 TOP=22A4 TOPBOT=2336",
   "TOPCIR=2AF1 TOPF=1D565 TOPFORK=2ADA TOSA=2929 TPRIME=2034 TRADE=2122 TRIANGLE=25B5",
   "TRIANGLEDOWN=25BF TRIANGLELEFT=25C3 TRIANGLELEFTEQ=22B4 TRIANGLEQ=225C TRIANGLERIGHT=25B9",
   "TRIANGLERIGHTEQ=22B5 TRIDOT=25EC TRIE=225C TRIMINUS=2A3A TRIPLUS=2A39 TRISB=29CD",
   "TRITIME=2A3B TRPEZIUM=23E2 TSCR=1D4C9 TSCY=426 TSHCY=40B TSHcy=40B TSTROK=166 TScy=426",
   "TWIXT=226C TWOHEADLEFTARROW=219E TWOHEADRIGHTARROW=21A0 Tab=9 Tau=3A4 Tcaron=164 Tcedil=162",
   "Tcy=422 Tfr=1D517 Therefore=2234 Theta=398 ThickSpace=205F-200A ThinSpace=2009 Tilde=223C",
   "TildeEqual=2243 TildeFullEqual=2245 TildeTilde=2248 Topf=1D54B TripleDot=20DB Tscr=1D4AF",
   "Tstrok=166 UACUTE=DA UARR=2191 UBRCY=40E UBREVE=16C UCIRC=DB UCY=423 UDARR=21C5 UDBLAC=170",
   "UDHAR=296E UFISHT=297E UFR=1D532 UGRAVE=D9 UHARL=21BF UHARR=21BE UHBLK=2580 ULCORN=231C",
   "ULCORNER=231C ULCROP=230F ULTRI=25F8 UMACR=16A UML=A8 UOGON=172 UOPF=1D566 UPARROW=2191",
   "UPDOWNARROW=2195 UPHARPOONLEFT=21BF UPHARPOONRIGHT=21BE UPLUS=228E UPSI=3A5 UPSIH=3D2",
   "UPSILON=3A5 UPUPARROWS=21C8 URCORN=231D URCORNER=231D URCROP=230E URING=16E URTRI=25F9",
   "USCR=1D4CA UTDOT=22F0 UTILDE=168 UTRI=25B5 UTRIF=25B4 UUARR=21C8 UUML=DC UWANGLE=29A7",
   "Uacute=DA Uarr=219F Uarrocir=2949 Ubrcy=40E Ubreve=16C Ucirc=DB Ucy=423 Udblac=170 Ufr=1D518",
   "Ugrave=D9 Umacr=16A UnderBar=5F UnderBrace=23DF UnderBracket=23B5 UnderParenthesis=23DD",
   "Union=22C3 UnionPlus=228E Uogon=172 Uopf=1D54C UpArrow=2191 UpArrowBar=2912",
   "UpArrowDownArrow=21C5 UpDownArrow=2195 UpEquilibrium=296E UpTee=22A5 UpTeeArrow=21A5",
   "Uparrow=21D1 Updownarrow=21D5 UpperLeftArrow=2196 UpperRightArrow=2197 Upsi=3D2 Upsilon=3A5",
   "Uring=16E Uscr=1D4B0 Utilde=168 Uuml=DC VANGRT=299C VAREPSILON=395 VARKAPPA=39A",
   "VARNOTHING=2205 VARPHI=3A6 VARPI=3A0 VARPROPTO=221D VARR=2195 VARRHO=3A1 VARSIGMA=3A3",
   "VARSUBSETNEQ=228A-FE00 VARSUBSETNEQQ=2ACB-FE00 VARSUPSETNEQ=228B-FE00",
   "VARSUPSETNEQQ=2ACC-FE00 VARTHETA=398 VARTRIANGLELEFT=22B2 VARTRIANGLERIGHT=22B3 VCY=412",
   "VDASH=22A2 VDash=22AB VEE=2228 VEEBAR=22BB VEEEQ=225A VELLIP=22EE VERBAR=7C VERT=7C",
   "VFR=1D533 VLTRI=22B2 VNSUB=2282-20D2 VNSUP=2283-20D2 VOPF=1D567 VPROP=221D VRTRI=22B3",
   "VSCR=1D4CB VSUBNE=228A-FE00 VSUPNE=228B-FE00 VZIGZAG=299A Vbar=2AEB Vcy=412 Vdash=22A9",
   "Vdashl=2AE6 Vee=22C1 Verbar=2016 Vert=2016 VerticalBar=2223 VerticalLine=7C",
   "VerticalSeparator=2758 VerticalTilde=2240 VeryThinSpace=200A Vfr=1D519 Vopf=1D54D Vscr=1D4B1",
   "Vvdash=22AA WCIRC=174 WEDBAR=2A5F WEDGE=2227 WEDGEQ=2259 WEIERP=2118 WFR=1D534 WOPF=1D568",
   "WP=2118 WR=2240 WREATH=2240 WSCR=1D4CC Wcirc=174 Wedge=22C0 Wfr=1D51A Wopf=1D54E Wscr=1D4B2",
   "XCAP=22C2 XCIRC=25EF XCUP=22C3 XDTRI=25BD XFR=1D535 XHARR=27F7 XI=39E XLARR=27F5 XMAP=27FC",
   "XNIS=22FB XODOT=2A00 XOPF=1D569 XOPLUS=2A01 XOTIME=2A02 XRARR=27F6 XSCR=1D4CD XSQCUP=2A06",
   "XUPLUS=2A04 XUTRI=25B3 XVEE=22C1 XWEDGE=22C0 Xfr=1D51B Xi=39E Xopf=1D54F Xscr=1D4B3",
   "YACUTE=DD YACY=42F YAcy=42F YCIRC=176 YCY=42B YEN=A5 YFR=1D536 YICY=407 YIcy=407 YOPF=1D56A",
   "YSCR=1D4CE YUCY=42E YUML=178 YUcy=42E Yacute=DD Ycirc=176 Ycy=42B Yfr=1D51C Yopf=1D550",
   "Yscr=1D4B4 Yuml=178 ZACUTE=179 ZCARON=17D ZCY=417 ZDOT=17B ZEETRF=2128 ZETA=396 ZFR=1D537",
   "ZHCY=416 ZHcy=416 ZIGRARR=21DD ZOPF=1D56B ZSCR=1D4CF ZWJ=200D ZWNJ=200C Zacute=179",
   "Zcaron=17D Zcy=417 Zdot=17B ZeroWidthSpace=200B Zeta=396 Zfr=2128 Zopf=2124 Zscr=1D4B5",
   "aacute=E1 abreve=103 ac=223E acE=223E-333 acd=223F acirc=E2 acute=B4 acy=430 aelig=E6",
   "af=2061 afr=1D51E agrave=E0 alefsym=2135 aleph=2135 alpha=3B1 amacr=101 amalg=2A3F amp=26",
   "and=2227 andand=2A55 andd=2A5C andslope=2A58 andv=2A5A ang=2220 ange=29A4 angle=2220",
   "angmsd=2221 angmsdaa=29A8 angmsdab=29A9 angmsdac=29AA angmsdad=29AB angmsdae=29AC",
   "angmsdaf=29AD angmsdag=29AE angmsdah=29AF angrt=221F angrtvb=22BE angrtvbd=299D angsph=2222",
   "angst=C5 angzarr=237C aogon=105 aopf=1D552 ap=2248 apE=2A70 apacir=2A6F ape=224A apid=224B",
   "apos=27 approx=2248 approxeq=224A aring=E5 ascr=1D4B6 ast=2A asymp=2248 asympeq=224D",
   "atilde=E3 auml=E4 awconint=2233 awint=2A11 bNot=2AED backcong=224C backepsilon=3F6",
   "backprime=2035 backsim=223D backsimeq=22CD barvee=22BD barwed=2305 barwedge=2305 bbrk=23B5",
   "bbrktbrk=23B6 bcong=224C bcy=431 bdquo=201E becaus=2235 because=2235 bemptyv=29B0 bepsi=3F6",
   "bernou=212C beta=3B2 beth=2136 between=226C bfr=1D51F bigcap=22C2 bigcirc=25EF bigcup=22C3",
   "bigodot=2A00 bigoplus=2A01 bigotimes=2A02 bigsqcup=2A06 bigstar=2605 bigtriangledown=25BD",
   "bigtriangleup=25B3 biguplus=2A04 bigvee=22C1 bigwedge=22C0 bkarow=290D blacklozenge=29EB",
   "blacksquare=25AA blacktriangle=25B4 blacktriangledown=25BE blacktriangleleft=25C2",
   "blacktriangleright=25B8 blank=2423 blk12=2592 blk14=2591 blk34=2593 block=2588 bne=3D-20E5",
   "bnequiv=2261-20E5 bnot=2310 bopf=1D553 bot=22A5 bottom=22A5 bowtie=22C8 boxDL=2557",
   "boxDR=2554 boxDl=2556 boxDr=2553 boxH=2550 boxHD=2566 boxHU=2569 boxHd=2564 boxHu=2567",
   "boxUL=255D boxUR=255A boxUl=255C boxUr=2559 boxV=2551 boxVH=256C boxVL=2563 boxVR=2560",
   "boxVh=256B boxVl=2562 boxVr=255F boxbox=29C9 boxdL=2555 boxdR=2552 boxdl=2510 boxdr=250C",
   "boxh=2500 boxhD=2565 boxhU=2568 boxhd=252C boxhu=2534 boxminus=229F boxplus=229E",
   "boxtimes=22A0 boxuL=255B boxuR=2558 boxul=2518 boxur=2514 boxv=2502 boxvH=256A boxvL=2561",
   "boxvR=255E boxvh=253C boxvl=2524 boxvr=251C bprime=2035 breve=2D8 brvbar=A6 bscr=1D4B7",
   "bsemi=204F bsim=223D bsime=22CD bsol=5C bsolb=29C5 bsolhsub=27C8 bull=2022 bullet=2022",
   "bump=224E bumpE=2AAE bumpe=224F bumpeq=224F cacute=107 cap=2229 capand=2A44 capbrcup=2A49",
   "capcap=2A4B capcup=2A47 capdot=2A40 caps=2229-FE00 caret=2041 caron=2C7 ccaps=2A4D",
   "ccaron=10D ccedil=E7 ccirc=109 ccups=2A4C ccupssm=2A50 cdot=10B cedil=B8 cemptyv=29B2",
   "cent=A2 centerdot=B7 cfr=1D520 chcy=447 check=2713 checkmark=2713 chi=3C7 cir=25CB cirE=29C3",
   "circ=2C6 circeq=2257 circlearrowleft=21BA circlearrowright=21BB circledR=AE circledS=24C8",
   "circledast=229B circledcirc=229A circleddash=229D cire=2257 cirfnint=2A10 cirmid=2AEF",
   "cirscir=29C2 clubs=2663 clubsuit=2663 colon=3A colone=2254 coloneq=2254 comma=2C commat=40",
   "comp=2201 compfn=2218 complement=2201 complexes=2102 cong=2245 congdot=2A6D conint=222E",
   "copf=1D554 coprod=2210 copy=A9 copysr=2117 crarr=21B5 cross=2717 cscr=1D4B8 csub=2ACF",
   "csube=2AD1 csup=2AD0 csupe=2AD2 ctdot=22EF cudarrl=2938 cudarrr=2935 cuepr=22DE cuesc=22DF",
   "cularr=21B6 cularrp=293D cup=222A cupbrcap=2A48 cupcap=2A46 cupcup=2A4A cupdot=228D",
   "cupor=2A45 cups=222A-FE00 curarr=21B7 curarrm=293C curlyeqprec=22DE curlyeqsucc=22DF",
   "curlyvee=22CE curlywedge=22CF curren=A4 curvearrowleft=21B6 curvearrowright=21B7 cuvee=22CE",
   "cuwed=22CF cwconint=2232 cwint=2231 cylcty=232D dArr=21D3 dHar=2965 dagger=2020 daleth=2138",
   "darr=2193 dash=2010 dashv=22A3 dbkarow=290F dblac=2DD dcaron=10F dcy=434 dd=2146",
   "ddagger=2021 ddarr=21CA ddotseq=2A77 deg=B0 delta=3B4 demptyv=29B1 dfisht=297F dfr=1D521",
   "dharl=21C3 dharr=21C2 diam=22C4 diamond=22C4 diamondsuit=2666 diams=2666 die=A8 digamma=3DD",
   "disin=22F2 div=F7 divide=F7 divideontimes=22C7 divonx=22C7 djcy=452 dlcorn=231E dlcrop=230D",
   "dollar=24 dopf=1D555 dot=2D9 doteq=2250 doteqdot=2251 dotminus=2238 dotplus=2214",
   "dotsquare=22A1 doublebarwedge=2306 downarrow=2193 downdownarrows=21CA downharpoonleft=21C3",
   "downharpoonright=21C2 drbkarow=2910 drcorn=231F drcrop=230C dscr=1D4B9 dscy=455 dsol=29F6",
   "dstrok=111 dtdot=22F1 dtri=25BF dtrif=25BE duarr=21F5 duhar=296F dwangle=29A6 dzcy=45F",
   "dzigrarr=27FF eDDot=2A77 eDot=2251 eacute=E9 easter=2A6E ecaron=11B ecir=2256 ecirc=EA",
   "ecolon=2255 ecy=44D edot=117 ee=2147 efDot=2252 efr=1D522 eg=2A9A egrave=E8 egs=2A96",
   "egsdot=2A98 el=2A99 elinters=23E7 ell=2113 els=2A95 elsdot=2A97 emacr=113 empty=2205",
   "emptyset=2205 emptyv=2205 emsp=2003 emsp13=2004 emsp14=2005 eng=14B ensp=2002 eogon=119",
   "eopf=1D556 epar=22D5 eparsl=29E3 eplus=2A71 epsi=3B5 epsilon=3B5 epsiv=3F5 eqcirc=2256",
   "eqcolon=2255 eqsim=2242 eqslantgtr=2A96 eqslantless=2A95 equals=3D equest=225F equiv=2261",
   "equivDD=2A78 eqvparsl=29E5 erDot=2253 erarr=2971 escr=212F esdot=2250 esim=2242 eta=3B7",
   "eth=F0 euml=EB euro=20AC excl=21 exist=2203 expectation=2130 exponentiale=2147",
   "fallingdotseq=2252 fcy=444 female=2640 ffilig=FB03 fflig=FB00 ffllig=FB04 ffr=1D523",
   "filig=FB01 fjlig=66-6A flat=266D fllig=FB02 fltns=25B1 fnof=192 fopf=1D557 forall=2200",
   "fork=22D4 forkv=2AD9 fpartint=2A0D frac12=BD frac13=2153 frac14=BC frac15=2155 frac16=2159",
   "frac18=215B frac23=2154 frac25=2156 frac34=BE frac35=2157 frac38=215C frac45=2158",
   "frac56=215A frac58=215D frac78=215E frasl=2044 frown=2322 fscr=1D4BB gE=2267 gEl=2A8C",
   "gacute=1F5 gamma=3B3 gammad=3DD gap=2A86 gbreve=11F gcirc=11D gcy=433 gdot=121 ge=2265",
   "gel=22DB geq=2265 geqq=2267 geqslant=2A7E ges=2A7E gescc=2AA9 gesdot=2A80 gesdoto=2A82",
   "gesdotol=2A84 gesl=22DB-FE00 gesles=2A94 gfr=1D524 gg=226B ggg=22D9 gimel=2137 gjcy=453",
   "gl=2277 glE=2A92 gla=2AA5 glj=2AA4 gnE=2269 gnap=2A8A gnapprox=2A8A gne=2A88 gneq=2A88",
   "gneqq=2269 gnsim=22E7 gopf=1D558 grave=60 gscr=210A gsim=2273 gsime=2A8E gsiml=2A90 gt=3E",
   "gtcc=2AA7 gtcir=2A7A gtdot=22D7 gtlPar=2995 gtquest=2A7C gtrapprox=2A86 gtrarr=2978",
   "gtrdot=22D7 gtreqless=22DB gtreqqless=2A8C gtrless=2277 gtrsim=2273 gvertneqq=2269-FE00",
   "gvnE=2269-FE00 hArr=21D4 hairsp=200A half=BD hamilt=210B hardcy=44A harr=2194 harrcir=2948",
   "harrw=21AD hbar=210F hcirc=125 hearts=2665 heartsuit=2665 hellip=2026 hercon=22B9 hfr=1D525",
   "hksearow=2925 hkswarow=2926 hoarr=21FF homtht=223B hookleftarrow=21A9 hookrightarrow=21AA",
   "hopf=1D559 horbar=2015 hscr=1D4BD hslash=210F hstrok=127 hybull=2043 hyphen=2010 iacute=ED",
   "ic=2063 icirc=EE icy=438 iecy=435 iexcl=A1 iff=21D4 ifr=1D526 igrave=EC ii=2148 iiiint=2A0C",
   "iiint=222D iinfin=29DC iiota=2129 ijlig=133 imacr=12B image=2111 imagline=2110 imagpart=2111",
   "imath=131 imof=22B7 imped=1B5 in=2208 incare=2105 infin=221E infintie=29DD inodot=131",
   "int=222B intcal=22BA integers=2124 intercal=22BA intlarhk=2A17 intprod=2A3C iocy=451",
   "iogon=12F iopf=1D55A iota=3B9 iprod=2A3C iquest=BF iscr=1D4BE isin=2208 isinE=22F9",
   "isindot=22F5 isins=22F4 isinsv=22F3 isinv=2208 it=2062 itilde=129 iukcy=456 iuml=EF",
   "jcirc=135 jcy=439 jfr=1D527 jmath=237 jopf=1D55B jscr=1D4BF jsercy=458 jukcy=454 kappa=3BA",
   "kappav=3F0 kcedil=137 kcy=43A kfr=1D528 kgreen=138 khcy=445 kjcy=45C kopf=1D55C kscr=1D4C0",
   "lAarr=21DA lArr=21D0 lAtail=291B lBarr=290E lE=2266 lEg=2A8B lHar=2962 lacute=13A",
   "laemptyv=29B4 lagran=2112 lambda=3BB lang=27E8 langd=2991 langle=27E8 lap=2A85 laquo=AB",
   "larr=2190 larrb=21E4 larrbfs=291F larrfs=291D larrhk=21A9 larrlp=21AB larrpl=2939",
   "larrsim=2973 larrtl=21A2 lat=2AAB latail=2919 late=2AAD lates=2AAD-FE00 lbarr=290C",
   "lbbrk=2772 lbrace=7B lbrack=5B lbrke=298B lbrksld=298F lbrkslu=298D lcaron=13E lcedil=13C",
   "lceil=2308 lcub=7B lcy=43B ldca=2936 ldquo=201C ldquor=201E ldrdhar=2967 ldrushar=294B",
   "ldsh=21B2 le=2264 leftarrow=2190 leftarrowtail=21A2 leftharpoondown=21BD leftharpoonup=21BC",
   "leftleftarrows=21C7 leftrightarrow=2194 leftrightarrows=21C6 leftrightharpoons=21CB",
   "leftrightsquigarrow=21AD leftthreetimes=22CB leg=22DA leq=2264 leqq=2266 leqslant=2A7D",
   "les=2A7D lescc=2AA8 lesdot=2A7F lesdoto=2A81 lesdotor=2A83 lesg=22DA-FE00 lesges=2A93",
   "lessapprox=2A85 lessdot=22D6 lesseqgtr=22DA lesseqqgtr=2A8B lessgtr=2276 lesssim=2272",
   "lfisht=297C lfloor=230A lfr=1D529 lg=2276 lgE=2A91 lhard=21BD lharu=21BC lharul=296A",
   "lhblk=2584 ljcy=459 ll=226A llarr=21C7 llcorner=231E llhard=296B lltri=25FA lmidot=140",
   "lmoust=23B0 lmoustache=23B0 lnE=2268 lnap=2A89 lnapprox=2A89 lne=2A87 lneq=2A87 lneqq=2268",
   "lnsim=22E6 loang=27EC loarr=21FD lobrk=27E6 longleftarrow=27F5 longleftrightarrow=27F7",
   "longmapsto=27FC longrightarrow=27F6 looparrowleft=21AB looparrowright=21AC lopar=2985",
   "lopf=1D55D loplus=2A2D lotimes=2A34 lowast=2217 lowbar=5F loz=25CA lozenge=25CA lozf=29EB",
   "lpar=28 lparlt=2993 lrarr=21C6 lrcorner=231F lrhar=21CB lrhard=296D lrm=200E lrtri=22BF",
   "lsaquo=2039 lscr=1D4C1 lsh=21B0 lsim=2272 lsime=2A8D lsimg=2A8F lsqb=5B lsquo=2018",
   "lsquor=201A lstrok=142 lt=3C ltcc=2AA6 ltcir=2A79 ltdot=22D6 lthree=22CB ltimes=22C9",
   "ltlarr=2976 ltquest=2A7B ltrPar=2996 ltri=25C3 ltrie=22B4 ltrif=25C2 lurdshar=294A",
   "luruhar=2966 lvertneqq=2268-FE00 lvnE=2268-FE00 mDDot=223A macr=AF male=2642 malt=2720",
   "maltese=2720 map=21A6 mapsto=21A6 mapstodown=21A7 mapstoleft=21A4 mapstoup=21A5 marker=25AE",
   "mcomma=2A29 mcy=43C mdash=2014 measuredangle=2221 mfr=1D52A mho=2127 micro=B5 mid=2223",
   "midast=2A midcir=2AF0 middot=B7 minus=2212 minusb=229F minusd=2238 minusdu=2A2A mlcp=2ADB",
   "mldr=2026 mnplus=2213 models=22A7 mopf=1D55E mp=2213 mscr=1D4C2 mstpos=223E mu=3BC",
   "multimap=22B8 mumap=22B8 nGg=22D9-338 nGt=226B-20D2 nGtv=226B-338 nLeftarrow=21CD",
   "nLeftrightarrow=21CE nLl=22D8-338 nLt=226A-20D2 nLtv=226A-338 nRightarrow=21CF nVDash=22AF",
   "nVdash=22AE nabla=2207 nacute=144 nang=2220-20D2 nap=2249 napE=2A70-338 napid=224B-338",
   "napos=149 napprox=2249 natur=266E natural=266E naturals=2115 nbsp=A0 nbump=224E-338",
   "nbumpe=224F-338 ncap=2A43 ncaron=148 ncedil=146 ncong=2247 ncongdot=2A6D-338 ncup=2A42",
   "ncy=43D ndash=2013 ne=2260 neArr=21D7 nearhk=2924 nearr=2197 nearrow=2197 nedot=2250-338",
   "nequiv=2262 nesear=2928 nesim=2242-338 nexist=2204 nexists=2204 nfr=1D52B ngE=2267-338",
   "nge=2271 ngeq=2271 ngeqq=2267-338 ngeqslant=2A7E-338 nges=2A7E-338 ngsim=2275 ngt=226F",
   "ngtr=226F nhArr=21CE nharr=21AE nhpar=2AF2 ni=220B nis=22FC nisd=22FA niv=220B njcy=45A",
   "nlArr=21CD nlE=2266-338 nlarr=219A nldr=2025 nle=2270 nleftarrow=219A nleftrightarrow=21AE",
   "nleq=2270 nleqq=2266-338 nleqslant=2A7D-338 nles=2A7D-338 nless=226E nlsim=2274 nlt=226E",
   "nltri=22EA nltrie=22EC nmid=2224 nopf=1D55F not=AC notin=2209 notinE=22F9-338",
   "notindot=22F5-338 notinva=2209 notinvb=22F7 notinvc=22F6 notni=220C notniva=220C",
   "notnivb=22FE notnivc=22FD npar=2226 nparallel=2226 nparsl=2AFD-20E5 npart=2202-338",
   "npolint=2A14 npr=2280 nprcue=22E0 npre=2AAF-338 nprec=2280 npreceq=2AAF-338 nrArr=21CF",
   "nrarr=219B nrarrc=2933-338 nrarrw=219D-338 nrightarrow=219B nrtri=22EB nrtrie=22ED nsc=2281",
   "nsccue=22E1 nsce=2AB0-338 nscr=1D4C3 nshortmid=2224 nshortparallel=2226 nsim=2241 nsime=2244",
   "nsimeq=2244 nsmid=2224 nspar=2226 nsqsube=22E2 nsqsupe=22E3 nsub=2284 nsubE=2AC5-338",
   "nsube=2288 nsubset=2282-20D2 nsubseteq=2288 nsubseteqq=2AC5-338 nsucc=2281 nsucceq=2AB0-338",
   "nsup=2285 nsupE=2AC6-338 nsupe=2289 nsupset=2283-20D2 nsupseteq=2289 nsupseteqq=2AC6-338",
   "ntgl=2279 ntilde=F1 ntlg=2278 ntriangleleft=22EA ntrianglelefteq=22EC ntriangleright=22EB",
   "ntrianglerighteq=22ED nu=3BD num=23 numero=2116 numsp=2007 nvDash=22AD nvHarr=2904",
   "nvap=224D-20D2 nvdash=22AC nvge=2265-20D2 nvgt=3E-20D2 nvinfin=29DE nvlArr=2902",
   "nvle=2264-20D2 nvlt=3C-20D2 nvltrie=22B4-20D2 nvrArr=2903 nvrtrie=22B5-20D2 nvsim=223C-20D2",
   "nwArr=21D6 nwarhk=2923 nwarr=2196 nwarrow=2196 nwnear=2927 oS=24C8 oacute=F3 oast=229B",
   "ocir=229A ocirc=F4 ocy=43E odash=229D odblac=151 odiv=2A38 odot=2299 odsold=29BC oelig=153",
   "ofcir=29BF ofr=1D52C ogon=2DB ograve=F2 ogt=29C1 ohbar=29B5 ohm=3A9 oint=222E olarr=21BA",
   "olcir=29BE olcross=29BB oline=203E olt=29C0 omacr=14D omega=3C9 omicron=3BF omid=29B6",
   "ominus=2296 oopf=1D560 opar=29B7 operp=29B9 oplus=2295 or=2228 orarr=21BB ord=2A5D",
   "order=2134 orderof=2134 ordf=AA ordm=BA origof=22B6 oror=2A56 orslope=2A57 orv=2A5B",
   "oscr=2134 oslash=F8 osol=2298 otilde=F5 otimes=2297 otimesas=2A36 ouml=F6 ovbar=233D",
   "par=2225 para=B6 parallel=2225 parsim=2AF3 parsl=2AFD part=2202 pcy=43F percnt=25 period=2E",
   "permil=2030 perp=22A5 pertenk=2031 pfr=1D52D phi=3C6 phiv=3D5 phmmat=2133 phone=260E pi=3C0",
   "pitchfork=22D4 piv=3D6 planck=210F planckh=210E plankv=210F plus=2B plusacir=2A23 plusb=229E",
   "pluscir=2A22 plusdo=2214 plusdu=2A25 pluse=2A72 plusmn=B1 plussim=2A26 plustwo=2A27 pm=B1",
   "pointint=2A15 popf=1D561 pound=A3 pr=227A prE=2AB3 prap=2AB7 prcue=227C pre=2AAF prec=227A",
   "precapprox=2AB7 preccurlyeq=227C preceq=2AAF precnapprox=2AB9 precneqq=2AB5 precnsim=22E8",
   "precsim=227E prime=2032 primes=2119 prnE=2AB5 prnap=2AB9 prnsim=22E8 prod=220F profalar=232E",
   "profline=2312 profsurf=2313 prop=221D propto=221D prsim=227E prurel=22B0 pscr=1D4C5 psi=3C8",
   "puncsp=2008 qfr=1D52E qint=2A0C qopf=1D562 qprime=2057 qscr=1D4C6 quaternions=210D",
   "quatint=2A16 quest=3F questeq=225F quot=22 rAarr=21DB rArr=21D2 rAtail=291C rBarr=290F",
   "rHar=2964 race=223D-331 racute=155 radic=221A raemptyv=29B3 rang=27E9 rangd=2992 range=29A5",
   "rangle=27E9 raquo=BB rarr=2192 rarrap=2975 rarrb=21E5 rarrbfs=2920 rarrc=2933 rarrfs=291E",
   "rarrhk=21AA rarrlp=21AC rarrpl=2945 rarrsim=2974 rarrtl=21A3 rarrw=219D ratail=291A",
   "ratio=2236 rationals=211A rbarr=290D rbbrk=2773 rbrace=7D rbrack=5D rbrke=298C rbrksld=298E",
   "rbrkslu=2990 rcaron=159 rcedil=157 rceil=2309 rcub=7D rcy=440 rdca=2937 rdldhar=2969",
   "rdquo=201D rdquor=201D rdsh=21B3 real=211C realine=211B realpart=211C reals=211D rect=25AD",
   "reg=AE rfisht=297D rfloor=230B rfr=1D52F rhard=21C1 rharu=21C0 rharul=296C rho=3C1 rhov=3F1",
   "rightarrow=2192 rightarrowtail=21A3 rightharpoondown=21C1 rightharpoonup=21C0",
   "rightleftarrows=21C4 rightleftharpoons=21CC rightrightarrows=21C9 rightsquigarrow=219D",
   "rightthreetimes=22CC ring=2DA risingdotseq=2253 rlarr=21C4 rlhar=21CC rlm=200F rmoust=23B1",
   "rmoustache=23B1 rnmid=2AEE roang=27ED roarr=21FE robrk=27E7 ropar=2986 ropf=1D563",
   "roplus=2A2E rotimes=2A35 rpar=29 rpargt=2994 rppolint=2A12 rrarr=21C9 rsaquo=203A rscr=1D4C7",
   "rsh=21B1 rsqb=5D rsquo=2019 rsquor=2019 rthree=22CC rtimes=22CA rtri=25B9 rtrie=22B5",
   "rtrif=25B8 rtriltri=29CE ruluhar=2968 rx=211E sacute=15B sbquo=201A sc=227B scE=2AB4",
   "scap=2AB8 scaron=161 sccue=227D sce=2AB0 scedil=15F scirc=15D scnE=2AB6 scnap=2ABA",
   "scnsim=22E9 scpolint=2A13 scsim=227F scy=441 sdot=22C5 sdotb=22A1 sdote=2A66 seArr=21D8",
   "searhk=2925 searr=2198 searrow=2198 sect=A7 semi=3B seswar=2929 setminus=2216 setmn=2216",
   "sext=2736 sfr=1D530 sfrown=2322 sharp=266F shchcy=449 shcy=448 shortmid=2223",
   "shortparallel=2225 shy=AD sigma=3C3 sigmaf=3C2 sigmav=3C2 sim=223C simdot=2A6A sime=2243",
   "simeq=2243 simg=2A9E simgE=2AA0 siml=2A9D simlE=2A9F simne=2246 simplus=2A24 simrarr=2972",
   "slarr=2190 smallsetminus=2216 smashp=2A33 smeparsl=29E4 smid=2223 smile=2323 smt=2AAA",
   "smte=2AAC smtes=2AAC-FE00 softcy=44C sol=2F solb=29C4 solbar=233F sopf=1D564 spades=2660",
   "spadesuit=2660 spar=2225 sqcap=2293 sqcaps=2293-FE00 sqcup=2294 sqcups=2294-FE00 sqsub=228F",
   "sqsube=2291 sqsubset=228F sqsubseteq=2291 sqsup=2290 sqsupe=2292 sqsupset=2290",
   "sqsupseteq=2292 squ=25A1 square=25A1 squarf=25AA squf=25AA srarr=2192 sscr=1D4C8 ssetmn=2216",
   "ssmile=2323 sstarf=22C6 star=2606 starf=2605 straightepsilon=3F5 straightphi=3D5 strns=AF",
   "sub=2282 subE=2AC5 subdot=2ABD sube=2286 subedot=2AC3 submult=2AC1 subnE=2ACB subne=228A",
   "subplus=2ABF subrarr=2979 subset=2282 subseteq=2286 subseteqq=2AC5 subsetneq=228A",
   "subsetneqq=2ACB subsim=2AC7 subsub=2AD5 subsup=2AD3 succ=227B succapprox=2AB8",
   "succcurlyeq=227D succeq=2AB0 succnapprox=2ABA succneqq=2AB6 succnsim=22E9 succsim=227F",
   "sum=2211 sung=266A sup=2283 sup1=B9 sup2=B2 sup3=B3 supE=2AC6 supdot=2ABE supdsub=2AD8",
   "supe=2287 supedot=2AC4 suphsol=27C9 suphsub=2AD7 suplarr=297B supmult=2AC2 supnE=2ACC",
   "supne=228B supplus=2AC0 supset=2283 supseteq=2287 supseteqq=2AC6 supsetneq=228B",
   "supsetneqq=2ACC supsim=2AC8 supsub=2AD4 supsup=2AD6 swArr=21D9 swarhk=2926 swarr=2199",
   "swarrow=2199 swnwar=292A szlig=DF target=2316 tau=3C4 tbrk=23B4 tcaron=165 tcedil=163",
   "tcy=442 tdot=20DB telrec=2315 tfr=1D531 there4=2234 therefore=2234 theta=3B8 thetasym=3D1",
   "thetav=3D1 thickapprox=2248 thicksim=223C thinsp=2009 thkap=2248 thksim=223C thorn=FE",
   "tilde=2DC times=D7 timesb=22A0 timesbar=2A31 timesd=2A30 tint=222D toea=2928 top=22A4",
   "topbot=2336 topcir=2AF1 topf=1D565 topfork=2ADA tosa=2929 tprime=2034 trade=2122",
   "triangle=25B5 triangledown=25BF triangleleft=25C3 trianglelefteq=22B4 triangleq=225C",
   "triangleright=25B9 trianglerighteq=22B5 tridot=25EC trie=225C triminus=2A3A triplus=2A39",
   "trisb=29CD tritime=2A3B trpezium=23E2 tscr=1D4C9 tscy=446 tshcy=45B tstrok=167 twixt=226C",
   "twoheadleftarrow=219E twoheadrightarrow=21A0 uArr=21D1 uHar=2963 uacute=FA uarr=2191",
   "ubrcy=45E ubreve=16D ucirc=FB ucy=443 udarr=21C5 udblac=171 udhar=296E ufisht=297E ufr=1D532",
   "ugrave=F9 uharl=21BF uharr=21BE uhblk=2580 ulcorn=231C ulcorner=231C ulcrop=230F ultri=25F8",
   "umacr=16B uml=A8 uogon=173 uopf=1D566 uparrow=2191 updownarrow=2195 upharpoonleft=21BF",
   "upharpoonright=21BE uplus=228E upsi=3C5 upsih=3D2 upsilon=3C5 upuparrows=21C8 urcorn=231D",
   "urcorner=231D urcrop=230E uring=16F urtri=25F9 uscr=1D4CA utdot=22F0 utilde=169 utri=25B5",
   "utrif=25B4 uuarr=21C8 uuml=FC uwangle=29A7 vArr=21D5 vBar=2AE8 vBarv=2AE9 vDash=22A8",
   "vangrt=299C varepsilon=3F5 varkappa=3F0 varnothing=2205 varphi=3D5 varpi=3D6 varpropto=221D",
   "varr=2195 varrho=3F1 varsigma=3C2 varsubsetneq=228A-FE00 varsubsetneqq=2ACB-FE00",
   "varsupsetneq=228B-FE00 varsupsetneqq=2ACC-FE00 vartheta=3D1 vartriangleleft=22B2",
   "vartriangleright=22B3 vcy=432 vdash=22A2 vee=2228 veebar=22BB veeeq=225A vellip=22EE",
   "verbar=7C vert=7C vfr=1D533 vltri=22B2 vnsub=2282-20D2 vnsup=2283-20D2 vopf=1D567 vprop=221D",
   "vrtri=22B3 vscr=1D4CB vsubnE=2ACB-FE00 vsubne=228A-FE00 vsupnE=2ACC-FE00 vsupne=228B-FE00",
   "vzigzag=299A wcirc=175 wedbar=2A5F wedge=2227 wedgeq=2259 weierp=2118 wfr=1D534 wopf=1D568",
   "wp=2118 wr=2240 wreath=2240 wscr=1D4CC xcap=22C2 xcirc=25EF xcup=22C3 xdtri=25BD xfr=1D535",
   "xhArr=27FA xharr=27F7 xi=3BE xlArr=27F8 xlarr=27F5 xmap=27FC xnis=22FB xodot=2A00 xopf=1D569",
   "xoplus=2A01 xotime=2A02 xrArr=27F9 xrarr=27F6 xscr=1D4CD xsqcup=2A06 xuplus=2A04 xutri=25B3",
   "xvee=22C1 xwedge=22C0 yacute=FD yacy=44F ycirc=177 ycy=44B yen=A5 yfr=1D536 yicy=457",
   "yopf=1D56A yscr=1D4CE yucy=44E yuml=FF zacute=17A zcaron=17E zcy=437 zdot=17C zeetrf=2128",
   "zeta=3B6 zfr=1D537 zhcy=436 zigrarr=21DD zopf=1D56B zscr=1D4CF zwj=200D zwnj=200C"]

end DreamJournal.Text
